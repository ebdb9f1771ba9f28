/-!
# Blank characters

The white-space characters of the Unicode Character Database (property White_Space), and the
trimming operations built on them. Keys, values and written names are trimmed with this class,
so a no-break space or an ideographic space separates words as an ordinary space does.
-/

namespace ResultLint
namespace Text

/-- A character with the White_Space property. -/
def isBlank (c : Char) : Bool :=
  let n := c.toNat
  (0x9 ≤ n && n ≤ 0xD) || n == 0x20 || n == 0x85 || n == 0xA0 || n == 0x1680 ||
    (0x2000 ≤ n && n ≤ 0x200A) || n == 0x2028 || n == 0x2029 || n == 0x202F ||
    n == 0x205F || n == 0x3000

theorem isBlank_of_isWhitespace {c : Char} (h : c.isWhitespace = true) : isBlank c = true := by
  simp only [Char.isWhitespace, Bool.or_eq_true, decide_eq_true_eq] at h
  rcases h with ((h | h) | h) | h <;> simp [isBlank, h, Char.toNat]

/-- Drops blanks at the front. -/
def dropBlanks (cs : List Char) : List Char := cs.dropWhile isBlank

/-- Drops blanks at the end. -/
def dropBlanksEnd (cs : List Char) : List Char := (cs.reverse.dropWhile isBlank).reverse

/-- Removes blanks at both ends of a text. -/
def trim (s : String) : String := String.ofList (dropBlanksEnd (dropBlanks s.toList))

/-- Removes blanks at the front of a text. -/
def trimStart (s : String) : String := String.ofList (dropBlanks s.toList)

/-- Removes blanks at the end of a text. -/
def trimEnd (s : String) : String := String.ofList (dropBlanksEnd s.toList)

/-- The characters before the first token of a source text: a byte order mark at its very
start, then blanks. -/
def leadingLayout (cs : List Char) : List Char :=
  match cs with
  | '\uFEFF' :: rest => '\uFEFF' :: rest.takeWhile isBlank
  | _ => cs.takeWhile isBlank

/-- The runs of characters between blanks, the current run collected in reverse. -/
def wordRuns : List Char → List Char → List String
  | [], run => if run.isEmpty then [] else [String.ofList run.reverse]
  | c :: rest, run =>
    if isBlank c then
      if run.isEmpty then wordRuns rest [] else String.ofList run.reverse :: wordRuns rest []
    else wordRuns rest (c :: run)

/-- The words of a text: the nonempty runs between blanks. -/
def words (s : String) : List String := wordRuns s.toList []

end Text
end ResultLint
