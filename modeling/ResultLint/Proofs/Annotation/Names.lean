import ResultLint.Annotation.Text
import ResultLint.Proofs.Marker.Exemption

/-!
# Resolved names keep their simple name

Resolving a written type name against a file's imports and package only puts a qualifier in
front of it: a dotted name is kept as written, an import that ends in the name is taken whole,
and otherwise the package and a dot go before the name (`resolve_cases`). So the last segment of
the resolved name is the written one's (`shortName_resolve`), and resolving again changes
nothing, since the first resolution gives back the name itself or a dotted name
(`resolve_resolve`).

An annotation read from source carries its written name and that name resolved. A configured
name without a dot is matched against the resolved name's last segment only, which is the
written name's last segment (`matchesName_undotted_iff`).
-/

namespace ResultLint
namespace TypeName

theorem takeWhile_append_cons_of_neg {p : Char → Bool} {c : Char} (hc : p c = false)
    (xs ys : List Char) : (xs ++ c :: ys).takeWhile p = xs.takeWhile p := by
  rw [List.takeWhile_append]
  split
  · next hlen =>
    rw [List.takeWhile_cons_of_neg (by simp [hc]), List.append_nil]
    exact ((List.takeWhile_prefix p).eq_of_length hlen).symm
  · rfl

theorem shortName_qualified (q s : String) : shortName (q ++ "." ++ s) = shortName s := by
  have hrev : (q ++ "." ++ s).toList.reverse = s.toList.reverse ++ '.' :: q.toList.reverse := by
    simp
  rw [shortName, shortName, hrev, takeWhile_append_cons_of_neg (by decide)]

variable {w : String} {imports : List String} {package : Option String}

theorem resolve_of_mem (h : '.' ∈ w.toList) : resolve w imports package = w := by
  simp [resolve, h]

/-- The three ways a name resolves: to itself, to an import whose last segment is the name
(only for a name without a dot), or to the name behind a qualifier and a dot. -/
theorem resolve_cases (w : String) (imports : List String) (package : Option String) :
    resolve w imports package = w ∨
      ('.' ∉ w.toList ∧ ∃ i, shortName i = w ∧ resolve w imports package = i) ∨
      ∃ q, resolve w imports package = q ++ "." ++ w := by
  by_cases hdot : '.' ∈ w.toList
  · exact .inl (resolve_of_mem hdot)
  cases hfind : imports.find? (fun i => !(i.toList.getLast? == some '*') && shortName i == w) with
  | some i =>
    have hi := List.find?_some hfind
    simp only [Bool.and_eq_true, beq_iff_eq] at hi
    exact .inr (.inl ⟨hdot, i, hi.2, by simp [resolve, hdot, hfind]⟩)
  | none =>
    cases package with
    | none => exact .inl (by simp [resolve, hdot, hfind])
    | some p =>
      by_cases hp : p.isEmpty
      · exact .inl (by simp [resolve, hdot, hfind, hp])
      · exact .inr (.inr ⟨p, by simp [resolve, hdot, hfind, hp]⟩)

/-- Resolution keeps the last segment of the name. -/
theorem shortName_resolve (w : String) (imports : List String) (package : Option String) :
    shortName (resolve w imports package) = shortName w := by
  rcases resolve_cases w imports package with h | ⟨hdot, i, hi, h⟩ | ⟨q, h⟩
  · rw [h]
  · rw [h, hi, shortName_of_dot_not_mem hdot]
  · rw [h, shortName_qualified]

theorem resolve_eq_self_or_dotted (w : String) (imports : List String) (package : Option String) :
    resolve w imports package = w ∨ '.' ∈ (resolve w imports package).toList := by
  rcases resolve_cases w imports package with h | ⟨-, i, hi, h⟩ | ⟨q, h⟩
  · exact .inl h
  · rw [h]
    by_cases hdot : '.' ∈ i.toList
    · exact .inr hdot
    · exact .inl (by rw [← hi, shortName_of_dot_not_mem hdot])
  · exact .inr (by simp [h])

/-- Resolving a resolved name gives it back. -/
theorem resolve_resolve (w : String) (imports : List String) (package : Option String) :
    resolve (resolve w imports package) imports package = resolve w imports package := by
  rcases resolve_eq_self_or_dotted w imports package with h | h
  · rw [h, h]
  · exact resolve_of_mem h

end TypeName

namespace Annotation

variable {imports : List String} {package : Option String}

theorem ofMember?_qualifiedName {entry : List Char} {a : Annotation}
    (h : ofMember? entry imports package = some a) :
    a.qualifiedName = TypeName.resolve a.name imports package := by
  unfold ofMember? at h
  split at h
  dsimp only at h
  split at h
  · cases h
  · cases h
    rfl

theorem exists_ofMember?_of_mem_ofText {text : String} {a : Annotation}
    (h : a ∈ ofText text imports package) : ∃ entry, ofMember? entry imports package = some a := by
  unfold ofText at h
  split at h
  · split at h
    · obtain ⟨entry, -, he⟩ := List.mem_filterMap.mp h
      exact ⟨entry, he⟩
    · exact ⟨_, Option.mem_toList.mp h⟩
  · simp at h

/-- An annotation read from source matches a configured name without a dot exactly when its
written name ends in that segment. -/
theorem matchesName_undotted_iff {text s : String} {a : Annotation}
    (ha : a ∈ ofText text imports package) (hs : '.' ∉ s.toList) :
    a.matchesName s = true ↔ TypeName.shortName a.name = s := by
  obtain ⟨entry, he⟩ := exists_ofMember?_of_mem_ofText ha
  rw [matchesName, if_neg (by simpa using hs), simpleName, ofMember?_qualifiedName he,
    TypeName.shortName_resolve, beq_iff_eq]

end Annotation

/-- Resolution keeps the written name's last segment, takes a dotted name as written, and is
idempotent; so an annotation read from source matches a configured name without a dot exactly
when the last segment of its written name is that name. -/
theorem resolved_names_keep_simple_name (w : String) (imports : List String)
    (package : Option String) :
    TypeName.shortName (TypeName.resolve w imports package) = TypeName.shortName w ∧
      ('.' ∈ w.toList → TypeName.resolve w imports package = w) ∧
      TypeName.resolve (TypeName.resolve w imports package) imports package =
        TypeName.resolve w imports package ∧
      ∀ text s : String, '.' ∉ s.toList → ∀ a ∈ Annotation.ofText text imports package,
        (a.matchesName s = true ↔ TypeName.shortName a.name = s) :=
  ⟨TypeName.shortName_resolve w imports package, TypeName.resolve_of_mem,
    TypeName.resolve_resolve w imports package,
    fun _ _ hs _ ha => Annotation.matchesName_undotted_iff ha hs⟩

/-- A dotted name is kept, and `@B` under the import `x.B` resolves to `x.B` and matches the
configured name `B`. -/
theorem imported_annotation_matches_simple_name :
    '.' ∈ "a.B".toList ∧ TypeName.resolve "a.B" ["x.B"] (some "p") = "a.B" ∧
      '.' ∉ "B".toList ∧
      (⟨"B", "x.B", {}⟩ : Annotation) ∈ Annotation.ofText "@B" ["x.B"] (some "p") ∧
      ((⟨"B", "x.B", {}⟩ : Annotation).matchesName "B" = true ↔ TypeName.shortName "B" = "B") := by
  have h := resolved_names_keep_simple_name "a.B" ["x.B"] (some "p")
  have hmem : (⟨"B", "x.B", {}⟩ : Annotation) ∈ Annotation.ofText "@B" ["x.B"] (some "p") := by
    decide
  exact ⟨by decide, h.2.1 (by decide), by decide, hmem, h.2.2.2 "@B" "B" (by decide) _ hmem⟩

end ResultLint
