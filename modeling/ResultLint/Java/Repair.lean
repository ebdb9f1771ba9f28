import ResultLint.Java.Reader

/-!
# Repairs of unreadable Java items

Java's tokens described for repairs, and the reading of a list item that repairs the item when
it cannot be read. A reading that stops at the first token of its item passes over that token;
one that runs out of tokens, or stops at a token taken as missing, is not repaired here.
-/

namespace ResultLint
namespace Java

open Read

/-- A token taken as missing, with no width, at byte `pos`: the symbol `text`, or a name when the
flag is set. -/
def missingToken (text : String) (isName : Bool) (pos : Nat) : Token :=
  { kind := if isName then .word else .symbol, text, start := pos, stop := pos }

/-- Java's tokens as repairs see them. -/
def tokenShape : TokenShape Token where
  start := Token.start
  stop := Token.stop
  missing := missingToken
  opens t := t.kind == .symbol && ["(", "[", "\x7b"].contains t.text
  closes t := t.kind == .symbol && [")", "]", "\x7d"].contains t.text
  invalid t := t.kind == .invalid

/-- A reading as an item reading over any token array. -/
def itemReading (p : Read (Option Syntax)) : ItemReading Token Kind := fun toks s =>
  match runFrom p toks s with
  | .ok (x, c) => .ok (x, c.next)
  | .error stop => .error stop

/-- Reads an item with `p`, repairing it when it cannot be read: `resumes` tells the tokens
that may follow an item in its list, or close the list. -/
def readRepaired (p : Read (Option Syntax)) (resumes : Token → Bool) : Read (Option Syntax) := do
  let toks ← read
  let s ← position
  match runFrom p toks s with
  | .ok (x, c) =>
    modify fun cur => { next := c.next, reach := max cur.reach c.reach }
    return x
  | .error stop =>
    modify fun cur => { cur with reach := max cur.reach stop.reach }
    let r := stop.reach
    let atMissing := (toks[r]?.map fun t => t.start == t.stop).getD true
    if atMissing || stop.settled then throw stop
    else if r ≤ s then
      seek (s + 1)
      return none
    else
      match repairItem tokenShape (itemReading p) resumes toks s r with
      | some rep =>
        seek rep.next
        return rep.item
      | none => throw { reach := r, settled := true }

end Java
end ResultLint
