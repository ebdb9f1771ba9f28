/-!
# Source text

A source file is a text whose positions are counted in UTF-8 bytes, as editors and syntax
trees count them. A line ends at a newline only; the column of a position is the number of
bytes since the start of its line.
-/

namespace ResultLint

/-- The UTF-8 length of a character. -/
def utf8Length (c : Char) : Nat :=
  let n := c.toNat
  if n < 0x80 then 1 else if n < 0x800 then 2 else if n < 0x10000 then 3 else 4

/-- A source text with the byte position of each of its characters. -/
structure Source where
  chars : Array Char
  /-- The byte position at which each character starts. -/
  offsets : Array Nat
  /-- The length of the text in bytes. -/
  size : Nat
  deriving Inhabited

namespace Source

/-- Reads a text, recording the byte position of every character. -/
def ofString (s : String) : Source :=
  let (offsets, size) := s.toList.foldl (fun (acc : Array Nat × Nat) c =>
    (acc.1.push acc.2, acc.2 + utf8Length c)) (#[], 0)
  { chars := s.toList.toArray, offsets, size }

/-- The index of the first character that starts at or after a byte position. -/
def charIndex (src : Source) (byte : Nat) : Nat :=
  go 0 src.chars.size (src.chars.size + 1)
where
  /-- Binary search in the offsets between `lo` and `hi`. -/
  go (lo hi : Nat) : Nat → Nat
    | 0 => lo
    | fuel + 1 =>
      if lo < hi then
        let mid := (lo + hi) / 2
        if src.offsets.getD mid 0 < byte then go (mid + 1) hi fuel else go lo mid fuel
      else lo

/-- The text between two byte positions. -/
def slice (src : Source) (start stop : Nat) : String :=
  String.ofList (src.chars.extract (src.charIndex start) (src.charIndex stop)).toList

/-- The 1-based line and 1-based byte column of a byte position. -/
def lineColumn (src : Source) (byte : Nat) : Nat × Nat :=
  let upto := src.chars.extract 0 (src.charIndex byte)
  let (line, lineStart) := (upto.zip (src.offsets.extract 0 upto.size)).foldl
    (fun (acc : Nat × Nat) (p : Char × Nat) =>
      if p.1 = '\n' then (acc.1 + 1, p.2 + 1) else acc) (1, 0)
  (line, byte - lineStart + 1)

end Source

end ResultLint
