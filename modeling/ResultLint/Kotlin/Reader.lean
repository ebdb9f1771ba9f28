import ResultLint.Kotlin.Syntax
import ResultLint.Kotlin.Token
import ResultLint.Repair

/-!
# Reading over Kotlin tokens

The reading monad of the Kotlin grammar and its primitive steps. A reading looks at a token
array; its state holds the position of the next token, the furthest position any reading
reached, also one that failed and was undone, and the places where a semicolon was assumed.
A failure carries that furthest position. Recovery sees Kotlin's tokens through `tokenShape`.
-/

namespace ResultLint
namespace Kotlin

/-- The state of reading: the position of the next token, the furthest position any reading
reached, also one that was undone, and the positions of the tokens before which a semicolon
was assumed. -/
structure ReadState where
  pos : Nat := 0
  reach : Nat := 0
  assumed : List Nat := []

/-- Reading over the token array; a failure says where the reading stopped. -/
abbrev Read := ReaderT (Array Token) (StateT ReadState (Except Stop))

namespace Read

variable {α : Type}

/-- The position of the next token. -/
def position : Read Nat := do return (← get).pos

/-- The token `k` places ahead. -/
def peekAt (k : Nat) : Read (Option Token) := do return (← read)[(← position) + k]?

/-- The next token. -/
def peek : Read (Option Token) := peekAt 0

/-- Stops reading here. -/
def fail : Read α := do
  let s ← get
  throw { reach := max s.reach s.pos }

/-- Takes the next token. -/
def bump : Read Token := do
  match ← peek with
  | some t =>
    modify fun s => { s with pos := s.pos + 1, reach := max s.reach (s.pos + 1) }
    return t
  | none => fail

/-- Runs a reading and undoes it if it fails. -/
def attempt (p : Read α) : Read (Option α) :=
  tryCatch (some <$> p) fun stop => do
    modify fun s => { s with reach := max s.reach stop.reach }
    pure none

/-- Whether a reading would succeed here; nothing is consumed. -/
def lookahead (p : Read α) : Read Bool := do
  let s ← get
  let ok := (← attempt p).isSome
  let reach := (← get).reach
  set { s with reach }
  return ok

/-- Whether the token `k` ahead is the symbol `s`. -/
def symAt (k : Nat) (s : String) : Read Bool := do
  match ← peekAt k with
  | some t => return t.kind == .symbol && t.text == s
  | none => return false

/-- Whether the next token is the symbol `s`. -/
def sym (s : String) : Read Bool := symAt 0 s

/-- Whether the token `k` ahead is the word `w`. -/
def wordAt (k : Nat) (w : String) : Read Bool := do
  match ← peekAt k with
  | some t => return t.kind == .word && t.text == w
  | none => return false

/-- Whether the next token is the word `w`. -/
def word (w : String) : Read Bool := wordAt 0 w

/-- Takes the symbol `s` or fails. -/
def expect (s : String) : Read Unit := do
  if ← sym s then discard bump else fail

/-- Takes the word `w` or fails. -/
def expectWord (w : String) : Read Unit := do
  if ← word w then discard bump else fail

/-- Takes the symbol `s` if it is next. -/
def optional (s : String) : Read Bool := do
  if ← sym s then discard bump; return true else return false

/-- Whether all tokens are read. -/
def atEnd : Read Bool := do return (← peek).isNone

/-- The first byte of the next token, or the end of the last one. -/
def startByte : Read Nat := do
  match ← peek with
  | some t => return t.start
  | none => return ((← read).back?.map Token.stop).getD 0

/-- The byte after the last token read. -/
def stopByte : Read Nat := do
  let p ← position
  if p = 0 then return 0
  else return (((← read)[p - 1]?).map Token.stop).getD 0

/-- A node from `start` to the last token read. -/
def finish (kind : Kind) (start : Nat) (children : List Syntax) : Read Syntax := do
  return .node kind none ⟨start, ← stopByte⟩ children

/-- A node for one token. -/
def leaf (kind : Kind) (t : Token) : Syntax := .node kind none ⟨t.start, t.stop⟩ []

/-- Notes that a semicolon is assumed before the next token. -/
def assume : Read Unit := modify fun s => { s with assumed := s.pos :: s.assumed }

/-- The notes taken so far. -/
def assumedSoFar : Read (List Nat) := do return (← get).assumed

/-- Runs a reading over a token array from position `start`. -/
def runFrom (p : Read α) (toks : Array Token) (start : Nat) : Except Stop (α × ReadState) :=
  (p.run toks).run { pos := start, reach := start }

end Read

/-- A token taken as missing, with no width, at byte `pos`: the symbol `text`, or a name when the
flag is set. -/
def missingToken (text : String) (isName : Bool) (pos : Nat) : Token :=
  { kind := if isName then .word else .symbol, text, start := pos, stop := pos, lineBreak := false }

/-- Kotlin's tokens as repairs see them. -/
def tokenShape : TokenShape Token where
  start := Token.start
  stop := Token.stop
  missing := missingToken
  opens t := t.kind == .symbol && ["(", "[", "\x7b"].contains t.text
  closes t := t.kind == .symbol && [")", "]", "\x7d"].contains t.text
  invalid t := t.kind == .invalid

end Kotlin
end ResultLint
