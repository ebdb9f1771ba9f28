import ResultLint.Marker

/-!
# When the exemption can be a marker

Markers are kept apart from the exemption by name: resolving a marker set drops the exemption
and its short name from the candidate markers. Annotations are matched differently: a name with
a dot by the annotation's qualified name, one without by its simple name. So the two can still
meet. An annotation `x.Ign` is a marker through the added name `x.Ign` and the exemption
`a.Ign` through its short name `Ign` (`qualified_marker_is_short_exemption`).

That is the only way they meet: when no marker with a dot shares the exemption's short name, no
annotation is both (`marker_exemption_disjoint`). The standard set is such a set
(`standard_marker_not_exemption`).
-/

namespace ResultLint

theorem takeWhile_eq_self {α : Type} {p : α → Bool} :
    ∀ {l : List α}, (∀ a ∈ l, p a = true) → l.takeWhile p = l
  | [], _ => rfl
  | a :: l, h => by
    rw [List.takeWhile_cons_of_pos (h a List.mem_cons_self),
      takeWhile_eq_self fun b hb => h b (List.mem_cons_of_mem a hb)]

namespace TypeName

theorem dot_not_mem_shortName (s : String) : '.' ∉ (shortName s).toList := by
  intro h
  simp only [shortName, String.toList_ofList, List.mem_reverse] at h
  have hpass := List.all_eq_true.mp List.all_takeWhile '.' h
  simp only [bne_self_eq_false, Bool.false_eq_true] at hpass

theorem shortName_of_dot_not_mem {s : String} (h : '.' ∉ s.toList) : shortName s = s := by
  have hpass : ∀ c ∈ s.toList.reverse, (c != '.') = true := by
    intro c hc
    have hc' : c ∈ s.toList := List.mem_reverse.mp hc
    simp only [bne_iff_ne, ne_eq]
    rintro rfl
    exact h hc'
  simp only [shortName, takeWhile_eq_self hpass, List.reverse_reverse, String.ofList_toList]

end TypeName

namespace Annotation

theorem matchesName_iff (a : Annotation) (n : String) :
    a.matchesName n = true ↔
      ('.' ∈ n.toList ∧ a.qualifiedName = n) ∨ ('.' ∉ n.toList ∧ a.simpleName = n) := by
  unfold matchesName
  by_cases h : '.' ∈ n.toList
  · simp [h]
  · simp [h]

end Annotation

namespace MarkerSet

@[simp]
theorem resolve_exemption (profile : Profile) (custom excluded : List String) (exemption : String) :
    (resolve profile custom excluded exemption).exemption = exemption := rfl

theorem mem_collect {excluded : List String} {exemption n : String} :
    ∀ {acc names : List String}, n ∈ collect excluded exemption acc names →
      n ∈ acc ∨ (n ∈ names ∧ n ≠ exemption ∧ n ≠ TypeName.shortName exemption)
  | acc, [], h => .inl h
  | acc, name :: rest, h => by
    unfold collect at h
    split at h
    · rcases mem_collect h with hacc | ⟨hrest, hne⟩
      · exact .inl hacc
      · exact .inr ⟨List.mem_cons_of_mem name hrest, hne⟩
    · rename_i hskip
      rcases mem_collect h with hacc | ⟨hrest, hne⟩
      · rcases List.mem_append.mp hacc with hacc | hname
        · exact .inl hacc
        · have hn : n = name := List.mem_singleton.mp hname
          subst hn
          refine .inr ⟨List.mem_cons_self, fun he => hskip (.inl he), fun hs => hskip (.inr (.inl hs))⟩
      · exact .inr ⟨List.mem_cons_of_mem name hrest, hne⟩

theorem mem_resolve_markers {profile : Profile} {custom excluded : List String}
    {exemption n : String} (h : n ∈ (resolve profile custom excluded exemption).markers) :
    n ∈ profile.markers ++ custom ∧ n ≠ exemption ∧ n ≠ TypeName.shortName exemption := by
  rcases mem_collect h with hnil | hmem
  · simp at hnil
  · exact hmem

/-- No annotation is both a marker and the exemption, as long as no marker with a dot shares
the exemption's short name. -/
theorem marker_exemption_disjoint (profile : Profile) (custom excluded : List String)
    (exemption : String)
    (hshort : ∀ n ∈ (resolve profile custom excluded exemption).markers, '.' ∈ n.toList →
      TypeName.shortName n ≠ TypeName.shortName exemption)
    (a : Annotation) :
    ¬ ((resolve profile custom excluded exemption).isMarker a = true ∧
      (resolve profile custom excluded exemption).isExemption a = true) := by
  rintro ⟨hmarker, hexempt⟩
  simp only [isMarker, Bool.and_eq_true, List.any_eq_true] at hmarker
  obtain ⟨⟨n, hn, hmatch⟩, -⟩ := hmarker
  obtain ⟨-, hne, hnes⟩ := mem_resolve_markers hn
  have hsimple : a.simpleName = TypeName.shortName a.qualifiedName := rfl
  have hdotless := TypeName.dot_not_mem_shortName exemption
  simp only [isExemption, resolve_exemption, Bool.or_eq_true] at hexempt
  rw [ Annotation.matchesName_iff] at hmatch
  rcases hmatch with ⟨hdot, hq⟩ | ⟨hdot, hs⟩
  · -- a dotted marker: the annotation's simple name is the marker's short name
    have hsn : a.simpleName = TypeName.shortName n := by rw [hsimple, hq]
    rcases hexempt with he | he <;> rw [ Annotation.matchesName_iff] at he
    · rcases he with ⟨-, hqe⟩ | ⟨hdote, hse⟩
      · exact hne (hq.symm.trans hqe)
      · exact hshort n hn hdot (by rw [← hsn, hse, TypeName.shortName_of_dot_not_mem hdote])
    · rcases he with ⟨hdote, -⟩ | ⟨-, hse⟩
      · exact hdotless hdote
      · exact hshort n hn hdot (by rw [← hsn, hse])
  · -- a plain marker: the annotation's simple name is the marker itself
    rcases hexempt with he | he <;> rw [ Annotation.matchesName_iff] at he
    · rcases he with ⟨-, hqe⟩ | ⟨-, hse⟩
      · exact hnes (by rw [← hs, hsimple, hqe])
      · exact hne (hs.symm.trans hse)
    · rcases he with ⟨hdote, -⟩ | ⟨-, hse⟩
      · exact hdotless hdote
      · exact hnes (hs.symm.trans hse)

/-- With the exemption `a.Ign` and the added marker `x.Ign`, an annotation `x.Ign` is both a
marker, by its qualified name, and the exemption, by its simple name. -/
theorem qualified_marker_is_short_exemption :
    (resolve .configurable ["x.Ign"] [] "a.Ign").isMarker
        { name := "x.Ign", qualifiedName := "x.Ign" } = true ∧
      (resolve .configurable ["x.Ign"] [] "a.Ign").isExemption
        { name := "x.Ign", qualifiedName := "x.Ign" } = true := by
  decide

/-- The standard markers and exemption share no annotation: no standard marker has the short
name `CanIgnoreReturnValue`. -/
theorem standard_marker_not_exemption :
    (∀ n ∈ standard.markers, '.' ∈ n.toList →
      TypeName.shortName n ≠ TypeName.shortName defaultExemption) ∧
    ¬ (standard.isMarker { name := "CheckReturnValue", qualifiedName := "CheckReturnValue" } = true ∧
      standard.isExemption { name := "CheckReturnValue", qualifiedName := "CheckReturnValue" } = true) :=
  ⟨by decide,
    marker_exemption_disjoint .configurable [] [] defaultExemption (by decide)
      { name := "CheckReturnValue", qualifiedName := "CheckReturnValue" }⟩

end MarkerSet

end ResultLint
