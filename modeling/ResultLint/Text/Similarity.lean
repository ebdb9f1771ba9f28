/-!
# Similar words

The Jaro similarity of two words, and the candidate most like a mistyped word.

Two characters match when they are equal and no further apart than half the longer word's
length, less one; each character of the first word takes the first free match in the second. With
`m` matches and `t` half the number of matched characters out of order, the similarity is the
mean of `m / |a|`, `m / |b|` and `(m - t) / m`, computed in binary64 arithmetic in that order.
Two empty words are alike (1) and an empty word is unlike any other (0).
-/

namespace ResultLint
namespace Text

/-- For each character of `a` in turn, whether it matched, and which characters of `b` are
taken, each character of `a` taking the first free equal one in its window. -/
def matchMarks (range : Nat) (a b : List Char) : List Bool × List Bool :=
  a.zipIdx.foldl (fun (marksA, marksB) (c, i) =>
    let hi := min b.length (i + range + 1)
    match (List.range hi).find? fun j => i - range ≤ j && b[j]? == some c && marksB[j]? == some false with
    | some j => (marksA ++ [true], marksB.set j true)
    | none => (marksA ++ [false], marksB)) ([], b.map fun _ => false)

/-- The characters of a word whose marks are set, in order. -/
def marked (cs : List Char) (marks : List Bool) : List Char :=
  (cs.zip marks).filterMap fun (c, m) => if m then some c else none

/-- The Jaro similarity of two words. -/
def jaro (a b : String) : Float :=
  let xs := a.toList
  let ys := b.toList
  if xs.isEmpty && ys.isEmpty then 1.0
  else if xs.isEmpty || ys.isEmpty then 0.0
  else
    let range := max xs.length ys.length / 2 - 1
    let (marksA, marksB) := matchMarks range xs ys
    let m := (marksA.filter id).length
    if m == 0 then 0.0
    else
      let t := (((marked xs marksA).zip (marked ys marksB)).filter fun (x, y) => x != y).length / 2
      (m.toFloat / xs.length.toFloat + m.toFloat / ys.length.toFloat +
        (m - t).toFloat / m.toFloat) / 3.0

/-- The candidate most like a word, if any is alike by more than 0.7; of equally alike
candidates the last. -/
def closest? (word : String) (candidates : List String) : Option String :=
  let best := candidates.foldl (fun (acc : Option (Float × String)) c =>
    let score := jaro word c
    if score > 0.7 then
      match acc with
      | some (s, _) => if score < s then acc else some (score, c)
      | none => some (score, c)
    else acc) none
  best.map (·.2)

end Text
end ResultLint
