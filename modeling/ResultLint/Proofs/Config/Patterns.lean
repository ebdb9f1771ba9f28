import ResultLint.Config.Glob

/-!
# Exclude patterns and path components

A path's components are its pieces between slashes. An exclude pattern `**/d/**`, for a name
`d` with no slash and no star, matches a path exactly when `d` is one of the path's
directories: a component other than the last (`directory_globs_match_components`).

The patterns `d/**` and `**/d` are matched by plain text tests on the path: the first holds
when the path starts with `d` or has `d/` inside it, the second when the path ends with `d` or
has `/d` inside it. Neither test looks at the other side of `d`, so each also matches where
`d` is only part of a component (`name_globs_match_inside_components`).
-/

namespace ResultLint
namespace Glob

/-! ## Text tests -/

/-- The scan for a text inside another finds exactly its occurrences. -/
theorem containsText_eq_true_iff : ∀ (t sub : List Char), containsText t sub = true ↔ sub <:+: t
  | [], sub => by simp [containsText]
  | c :: rest, sub => by
    rw [containsText, Bool.or_eq_true, List.isPrefixOf_iff_prefix, containsText_eq_true_iff rest sub,
      List.infix_cons_iff]

theorem dropPrefixes_append {p : List Char} (hp : p ≠ []) (cs : List Char) :
    dropPrefixes p (p ++ cs) = dropPrefixes p cs := by
  rw [dropPrefixes, dif_pos ⟨hp, List.isPrefixOf_iff_prefix.mpr (List.prefix_append p cs)⟩,
    List.drop_left]

theorem dropPrefixes_of_head?_ne {c : Char} {p cs : List Char} (hc : cs.head? ≠ some c) :
    dropPrefixes (c :: p) cs = cs := by
  rw [dropPrefixes, dif_neg]
  rintro ⟨-, h⟩
  obtain ⟨u, rfl⟩ := List.isPrefixOf_iff_prefix.mp h
  exact hc rfl

theorem head?_append_ne {c : Char} {l l' : List Char} (hl : c ∉ l) (hl' : l'.head? ≠ some c) :
    (l ++ l').head? ≠ some c := by
  cases l with
  | nil => simpa using hl'
  | cons a l =>
    rw [List.cons_append, List.head?_cons]
    rintro ⟨⟩
    exact hl List.mem_cons_self

theorem splitOnText_go_append {xs : List Char} (hxs : '*' ∉ xs) (rest current : List Char) :
    splitOnText.go ['*', '*'] (xs ++ rest) current =
      splitOnText.go ['*', '*'] rest (xs.reverse ++ current) := by
  induction xs generalizing current with
  | nil => rfl
  | cons x xs ih =>
    have hx : x ≠ '*' := fun h => hxs (h ▸ List.mem_cons_self)
    rw [List.cons_append, splitOnText.go, dif_neg (by simp [Ne.symm hx]),
      ih (fun h => hxs (List.mem_cons_of_mem x h))]
    simp

theorem splitOnText_go_of_not_mem {xs : List Char} (hxs : '*' ∉ xs) (current : List Char) :
    splitOnText.go ['*', '*'] xs current = [current.reverse ++ xs] := by
  rw [← List.append_nil xs, splitOnText_go_append hxs, splitOnText.go]
  simp

theorem splitOnText_go_stars (rest current : List Char) :
    splitOnText.go ['*', '*'] ('*' :: '*' :: rest) current =
      current.reverse :: splitOnText.go ['*', '*'] rest [] := by
  rw [splitOnText.go, dif_pos (by simp)]
  rfl

/-! ## Pattern shapes -/

variable {d : String}

theorem matchesPath_directory (hstar : '*' ∉ d.toList) (t : String) :
    matchesPath ("**/" ++ d ++ "/**") t =
      (containsText t.toList ('/' :: d.toList ++ ['/']) || (d.toList ++ ['/']).isPrefixOf t.toList) := by
  have hdir : dropSuffixes ['/', '*', '*'] (dropPrefixes ['*', '*', '/'] (['*', '*', '/'] ++
      (d.toList ++ ['/', '*', '*']))) = d.toList := by
    rw [dropPrefixes_append (by simp), dropPrefixes_of_head?_ne (head?_append_ne hstar (by simp)),
      dropSuffixes, List.reverse_append]
    rw [show (['/', '*', '*'] : List Char).reverse = ['*', '*', '/'] from rfl,
      dropPrefixes_append (by simp),
      dropPrefixes_of_head?_ne (fun h => hstar (List.mem_reverse.mp (List.mem_of_mem_head? h))),
      List.reverse_reverse]
  have hp : ("**/" ++ d ++ "/**").toList = ['*', '*', '/'] ++ (d.toList ++ ['/', '*', '*']) := by
    simp
  have hslash : (['*', '*', '/'] ++ (d.toList ++ ['/', '*', '*'])).contains '/' = true := by simp
  have hstars : containsText (['*', '*', '/'] ++ (d.toList ++ ['/', '*', '*'])) ['*', '*'] = true :=
    (containsText_eq_true_iff _ _).mpr (List.infix_append [] _ _)
  have hstarts : (['*', '*', '/'] : List Char).isPrefixOf
      (['*', '*', '/'] ++ (d.toList ++ ['/', '*', '*'])) = true :=
    List.isPrefixOf_iff_prefix.mpr (List.prefix_append _ _)
  have hends : (['/', '*', '*'] : List Char).isSuffixOf
      (['*', '*', '/'] ++ (d.toList ++ ['/', '*', '*'])) = true :=
    List.isSuffixOf_iff_suffix.mpr (by rw [← List.append_assoc]; exact List.suffix_append _ _)
  simp only [matchesPath, hp, hslash, hstars, hstarts, hends, hdir, Bool.not_true,
    Bool.false_eq_true, and_false, and_true, ↓reduceIte]

theorem matchesPath_under (hslash : '/' ∉ d.toList) (hstar : '*' ∉ d.toList) (t : String) :
    matchesPath (d ++ "/**") t =
      (d.toList.isPrefixOf t.toList || containsText t.toList (d.toList ++ ['/'])) := by
  have hp : (d ++ "/**").toList = d.toList ++ ['/', '*', '*'] := by simp
  have hhead : (d.toList ++ ['/', '*', '*']).head? ≠ some '*' := head?_append_ne hstar (by simp)
  have hslash' : (d.toList ++ ['/', '*', '*']).contains '/' = true := by simp
  have hstars : containsText (d.toList ++ ['/', '*', '*']) ['*', '*'] = true :=
    (containsText_eq_true_iff _ _).mpr ⟨d.toList ++ ['/'], [], by simp⟩
  have hstarts : (['*', '*', '/'] : List Char).isPrefixOf (d.toList ++ ['/', '*', '*']) = false := by
    rw [← Bool.not_eq_true, List.isPrefixOf_iff_prefix]
    rintro ⟨u, hu⟩
    exact hhead (by rw [← hu]; rfl)
  have hsplit : splitOnText ['*', '*'] (d.toList ++ ['/', '*', '*']) = [d.toList ++ ['/'], []] := by
    rw [splitOnText, show d.toList ++ ['/', '*', '*'] = (d.toList ++ ['/']) ++ '*' :: '*' :: [] by simp,
      splitOnText_go_append (by simpa using hstar), splitOnText_go_stars,
      splitOnText_go_of_not_mem (List.not_mem_nil)]
    simp
  have hpre : dropSuffixes ['/'] (d.toList ++ ['/']) = d.toList := by
    rw [dropSuffixes, List.reverse_append, List.reverse_singleton, dropPrefixes_append (by simp),
      dropPrefixes_of_head?_ne (fun h => hslash (List.mem_reverse.mp (List.mem_of_mem_head? h))),
      List.reverse_reverse]
  have hsuf : dropPrefixes ['/'] [] = [] := by
    rw [dropPrefixes_of_head?_ne (by simp)]
  simp only [matchesPath, hp, hhead, hslash', hstars, hstarts, hsplit, hpre, hsuf, Bool.not_true,
    Bool.false_eq_true, and_false, false_and, List.isEmpty_nil, and_true, ↓reduceIte]
  by_cases hd : d.toList = []
  · simp [hd]
  · simp [hd]

theorem matchesPath_named (hslash : '/' ∉ d.toList) (hstar : '*' ∉ d.toList) (t : String) :
    matchesPath ("**/" ++ d) t =
      (d.toList.isSuffixOf t.toList || containsText t.toList ('/' :: d.toList)) := by
  have hp : ("**/" ++ d).toList = ['*', '*', '/'] ++ d.toList := by simp
  have hlast : (['*', '*', '/'] ++ d.toList).getLast? ≠ some '*' := by
    rw [← List.head?_reverse, List.reverse_append]
    exact head?_append_ne (fun h => hstar (List.mem_reverse.mp h)) (by simp)
  have hslash' : (['*', '*', '/'] ++ d.toList).contains '/' = true := by simp
  have hstars : containsText (['*', '*', '/'] ++ d.toList) ['*', '*'] = true :=
    (containsText_eq_true_iff _ _).mpr (List.infix_append [] _ _)
  have hstarts : (['*', '*', '/'] : List Char).isPrefixOf (['*', '*', '/'] ++ d.toList) = true :=
    List.isPrefixOf_iff_prefix.mpr (List.prefix_append _ _)
  have hends : (['/', '*', '*'] : List Char).isSuffixOf (['*', '*', '/'] ++ d.toList) = false := by
    rw [← Bool.not_eq_true, List.isSuffixOf_iff_suffix]
    rintro ⟨u, hu⟩
    exact hlast (by rw [← hu]; simp)
  have hsplit : splitOnText ['*', '*'] (['*', '*', '/'] ++ d.toList) = [[], '/' :: d.toList] := by
    rw [splitOnText, List.cons_append, List.cons_append, splitOnText_go_stars,
      splitOnText_go_of_not_mem (by simpa using hstar)]
    simp
  have hpre : dropSuffixes ['/'] [] = [] := by
    rw [dropSuffixes, List.reverse_nil, List.reverse_singleton, dropPrefixes_of_head?_ne (by simp),
      List.reverse_nil]
  have hsuf : dropPrefixes ['/'] ('/' :: d.toList) = d.toList := by
    rw [show '/' :: d.toList = ['/'] ++ d.toList from rfl, dropPrefixes_append (by simp),
      dropPrefixes_of_head?_ne (fun h => hslash (List.mem_of_mem_head? h))]
  simp only [matchesPath, hp, hlast, hslash', hstars, hstarts, hends, hsplit, hpre, hsuf,
    Bool.not_true, Bool.false_eq_true, and_false, List.isEmpty_nil, true_and, ↓reduceIte]
  by_cases hd : d.toList = []
  · simp [hd]
  · simp [hd]

/-! ## Components -/

theorem intercalate_append_cons {c : Char} (l : List Char) {B : List (List Char)} (hB : B ≠ []) :
    ∀ A : List (List Char), (l ++ [c]) <+: [c].intercalate (A ++ l :: B) ∨
      (c :: l ++ [c]) <:+: [c].intercalate (A ++ l :: B)
  | [] => by
    left
    rw [List.nil_append, List.intercalate_cons_of_ne_nil hB]
    exact List.prefix_append _ _
  | a :: A => by
    right
    rw [show (a :: A) ++ l :: B = a :: (A ++ l :: B) from rfl,
      List.intercalate_cons_of_ne_nil (by simp)]
    rcases intercalate_append_cons l hB A with ⟨u, hu⟩ | hinf
    · exact ⟨a, u, by rw [← hu]; simp⟩
    · exact hinf.trans ⟨a ++ [c], [], by simp⟩

theorem mem_dropLast_splitOn_iff {c : Char} {l : List Char} (hl : c ∉ l) (xs : List Char) :
    l ∈ (xs.splitOn c).dropLast ↔ (l ++ [c]) <+: xs ∨ (c :: l ++ [c]) <:+: xs := by
  constructor
  · intro h
    obtain ⟨A, B, hAB⟩ := List.append_of_mem h
    have hne := List.splitOn_ne_nil c xs
    have hsplit : xs.splitOn c = A ++ l :: (B ++ [(xs.splitOn c).getLast hne]) :=
      calc xs.splitOn c = (xs.splitOn c).dropLast ++ [(xs.splitOn c).getLast hne] :=
            (List.dropLast_concat_getLast hne).symm
        _ = A ++ l :: (B ++ [(xs.splitOn c).getLast hne]) := by rw [hAB]; simp
    have hjoin := intercalate_append_cons (c := c) l
      (B := B ++ [(xs.splitOn c).getLast hne]) (by simp) A
    rwa [← hsplit, List.intercalate_splitOn] at hjoin
  · rintro (⟨u, rfl⟩ | ⟨s, u, rfl⟩)
    · rw [List.append_assoc, List.singleton_append, List.splitOn_append_cons_self_of_not_mem hl,
        List.dropLast_cons_of_ne_nil (List.splitOn_ne_nil c u)]
      exact List.mem_cons_self
    · rw [show s ++ (c :: l ++ [c]) ++ u = s ++ c :: (l ++ c :: u) by simp,
        List.splitOn_append_cons_self, List.splitOn_append_cons_self_of_not_mem hl,
        List.dropLast_append_cons, List.dropLast_cons_of_ne_nil (List.splitOn_ne_nil c u)]
      exact List.mem_append_right _ List.mem_cons_self

/-- Of the three pattern shapes built on a name `d` without slashes and stars, `**/d/**`
matches exactly the paths with a directory named `d`: a component, between slashes, other than
the last. `d/**` matches the paths that start with `d` or hold `d/`, and `**/d` those that end
with `d` or hold `/d`. -/
theorem directory_globs_match_components (d t : String) (hslash : '/' ∉ d.toList)
    (hstar : '*' ∉ d.toList) :
    (matchesPath ("**/" ++ d ++ "/**") t = true ↔ d.toList ∈ (t.toList.splitOn '/').dropLast) ∧
      (matchesPath (d ++ "/**") t = true ↔
        d.toList <+: t.toList ∨ (d.toList ++ ['/']) <:+: t.toList) ∧
      (matchesPath ("**/" ++ d) t = true ↔
        d.toList <:+ t.toList ∨ ('/' :: d.toList) <:+: t.toList) := by
  refine ⟨?_, ?_, ?_⟩
  · rw [matchesPath_directory hstar, mem_dropLast_splitOn_iff hslash, Bool.or_eq_true,
      containsText_eq_true_iff, List.isPrefixOf_iff_prefix, or_comm]
  · rw [matchesPath_under hslash hstar, Bool.or_eq_true, List.isPrefixOf_iff_prefix,
      containsText_eq_true_iff]
  · rw [matchesPath_named hslash hstar, Bool.or_eq_true, List.isSuffixOf_iff_suffix,
      containsText_eq_true_iff]

theorem build_globs_match_components :
    '/' ∉ "build".toList ∧ '*' ∉ "build".toList ∧
      ((matchesPath ("**/" ++ "build" ++ "/**") "/project/build/A.java" = true ↔
          "build".toList ∈ ("/project/build/A.java".toList.splitOn '/').dropLast) ∧
        (matchesPath ("build" ++ "/**") "/project/build/A.java" = true ↔
          "build".toList <+: "/project/build/A.java".toList ∨
            ("build".toList ++ ['/']) <:+: "/project/build/A.java".toList) ∧
        (matchesPath ("**/" ++ "build") "/project/build/A.java" = true ↔
          "build".toList <:+ "/project/build/A.java".toList ∨
            ('/' :: "build".toList) <:+: "/project/build/A.java".toList)) :=
  ⟨by decide, by decide,
    directory_globs_match_components "build" "/project/build/A.java" (by decide) (by decide)⟩

/-- `src/**` matches a path whose first component only starts with `src`, and `**/build` one
whose one component only ends with `build`. -/
theorem name_globs_match_inside_components :
    (matchesPath "src/**" "srcfoo/A.kt" = true ∧ "src".toList ∉ "srcfoo/A.kt".toList.splitOn '/') ∧
      (matchesPath "**/build" "rebuild" = true ∧ "build".toList ∉ "rebuild".toList.splitOn '/') := by
  refine ⟨⟨?_, by decide⟩, ?_, by decide⟩
  · rw [show "src/**" = "src" ++ "/**" by decide, matchesPath_under (by decide) (by decide)]
    decide
  · rw [show "**/build" = "**/" ++ "build" by decide, matchesPath_named (by decide) (by decide)]
    decide

end Glob
end ResultLint
