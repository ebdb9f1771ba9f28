import ResultLint.Java.Syntax
import ResultLint.Java.Token
import ResultLint.Repair

/-!
# Reading over Java tokens

The reading monad of the Java grammar and its primitive steps. A reading looks at a token array;
its state is a cursor holding the position of the next token and the furthest position any
reading reached, also one that failed and was undone. A failure carries that furthest position,
which tells how far into the text a reading could get.
-/

namespace ResultLint
namespace Java

/-- Where a reading stands: the position of the next token, and the furthest position any
reading so far has reached, also one that was undone. -/
structure Cursor where
  next : Nat := 0
  reach : Nat := 0
  deriving Repr, Inhabited

/-- Reading over the token array; the state is the cursor, and a failure says where the
reading stopped. -/
abbrev Read := ReaderT (Array Token) (StateT Cursor (Except Stop))

namespace Read

variable {α : Type}

/-- The token `k` places ahead. -/
def peekAt (k : Nat) : Read (Option Token) := do return (← read)[(← get).next + k]?

/-- The position of the next token. -/
def position : Read Nat := do return (← get).next

/-- Moves back to an earlier position, keeping the furthest one reached. -/
def seek (p : Nat) : Read Unit := modify fun c => { c with next := p }

/-- The next token. -/
def peek : Read (Option Token) := peekAt 0

/-- Stops reading here. -/
def fail : Read α := do
  let c ← get
  throw { reach := max c.reach c.next }

/-- Takes the next token. -/
def bump : Read Token := do
  match ← peek with
  | some t =>
    modify fun c => { c with next := c.next + 1, reach := max c.reach (c.next + 1) }
    return t
  | none => fail

/-- Runs a reading and undoes it if it fails. -/
def attempt (p : Read α) : Read (Option α) :=
  tryCatch (some <$> p) fun stop => do
    modify fun c => { c with reach := max c.reach stop.reach }
    pure none

/-- Whether a reading would succeed here; nothing is consumed. -/
def lookahead (p : Read α) : Read Bool := do
  let pos ← position
  let ok := (← attempt p).isSome
  seek pos
  return ok

/-- Whether the token `k` ahead is the symbol `s`. -/
def symAt (k : Nat) (s : String) : Read Bool := do
  match ← peekAt k with
  | some t => return t.kind == .symbol && t.text == s
  | none => return false

/-- Whether the next token is the symbol `s`. -/
def sym (s : String) : Read Bool := symAt 0 s

/-- Whether the token `k` ahead is the word `w`. -/
def wordAt (k : Nat) (w : String) : Read Bool := do
  match ← peekAt k with
  | some t => return t.kind == .word && t.text == w
  | none => return false

/-- Whether the next token is the word `w`. -/
def word (w : String) : Read Bool := wordAt 0 w

/-- Takes the symbol `s` or fails. -/
def expect (s : String) : Read Unit := do
  if ← sym s then discard bump else fail

/-- Takes the word `w` or fails. -/
def expectWord (w : String) : Read Unit := do
  if ← word w then discard bump else fail

/-- Takes the symbol `s` if it is next. -/
def optional (s : String) : Read Bool := do
  if ← sym s then discard bump; return true else return false

/-- Whether all tokens are read. -/
def atEnd : Read Bool := do return (← peek).isNone

/-- The first byte of the next token, or the end of the last one. -/
def startByte : Read Nat := do
  match ← peek with
  | some t => return t.start
  | none => return ((← read).back?.map Token.stop).getD 0

/-- The byte after the last token read. -/
def stopByte : Read Nat := do
  let p ← position
  if p = 0 then return 0
  else return (((← read)[p - 1]?).map Token.stop).getD 0

/-- A node from `start` to the last token read. -/
def finish (kind : Kind) (start : Nat) (children : List Syntax) : Read Syntax := do
  return .node kind none ⟨start, ← stopByte⟩ children

/-- A node for one token. -/
def leaf (kind : Kind) (t : Token) : Syntax := .node kind none ⟨t.start, t.stop⟩ []

/-- Runs a reading over a token array from position `start`. -/
def runFrom (p : Read α) (toks : Array Token) (start : Nat) : Except Stop (α × Cursor) :=
  (p.run toks).run { next := start, reach := start }

end Read

end Java
end ResultLint
