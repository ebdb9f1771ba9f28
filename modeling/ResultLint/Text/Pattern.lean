/-!
# Patterns over characters

A pattern is read as the positions of a text it can reach from some start positions, so a
choice keeps every way the text can be read and nothing is decided early. The longest match of
a pattern at the start of a text is the furthest position it reaches from the start.

A scanner that cuts a text into the longest tokens it can uses this to decide between the
patterns of its tokens: the token is as long as the longest match of any of them.
-/

namespace ResultLint
namespace Text

/-- A pattern over characters. -/
inductive Pattern where
  /-- One character that passes a test. -/
  | char (test : Char → Bool)
  | seq (first second : Pattern)
  | alt (left right : Pattern)
  | opt (p : Pattern)
  /-- One or more matches in a row. -/
  | many1 (p : Pattern)
  deriving Inhabited

namespace Pattern

/-- The pattern of a fixed text. -/
def text (s : String) : Pattern :=
  match s.toList with
  | [] => opt (char fun _ => false)
  | c :: rest => rest.foldl (fun p d => seq p (char (· = d))) (char (· = c))

/-- A sequence of patterns. -/
def seqs : List Pattern → Pattern
  | [] => opt (char fun _ => false)
  | [p] => p
  | p :: rest => seq p (seqs rest)

/-- One or more matches of `item`, each two separated by a match of `separator`. -/
def sepBy1 (item separator : Pattern) : Pattern := seq item (opt (many1 (seq separator item)))

/-- The positions reached by repeating a step from a frontier, at most `fuel` times, with the
positions already `seen`. -/
def closure (step : List Nat → List Nat) : Nat → List Nat → List Nat → List Nat
  | 0, seen, _ => seen
  | n + 1, seen, frontier =>
    let next := (step frontier).eraseDups.filter (· ∉ seen)
    if next.isEmpty then seen else closure step n (seen ++ next) next

/-- The positions of a text that a pattern reaches from the start positions `ps`. -/
def reach (cs : Array Char) : Pattern → List Nat → List Nat
  | char test, ps => (ps.filterMap fun i => if (cs[i]?.map test).getD false then some (i + 1) else none).eraseDups
  | seq a b, ps => reach cs b (reach cs a ps)
  | alt a b, ps => (reach cs a ps ++ reach cs b ps).eraseDups
  | opt a, ps => (ps ++ reach cs a ps).eraseDups
  | many1 a, ps =>
    let first := reach cs a ps
    closure (reach cs a) (cs.size + 1) first first

/-- The length of the longest match of a pattern at the start of a text, if it matches. -/
def longest? (p : Pattern) (cs : Array Char) : Option Nat := (reach cs p [0]).max?

end Pattern

/-- The longest match among some patterns, each with what it stands for: the first of them on
a tie. -/
def longestOf? {α : Type} (patterns : List (α × Pattern)) (cs : Array Char) : Option (Nat × α) :=
  patterns.foldl (fun best (a, p) =>
    match p.longest? cs, best with
    | some n, some (m, _) => if n > m then some (n, a) else best
    | some n, none => some (n, a)
    | none, _ => best) none

end Text
end ResultLint
