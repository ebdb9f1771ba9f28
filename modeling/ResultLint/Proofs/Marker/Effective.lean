import ResultLint.Config.Basic

/-!
# The effective marker set

Resolving a marker set goes through the profile's markers and then the configured ones, and
keeps a name unless it is the exemption, the exemption's short name, an excluded name, or a
name it already kept. So the markers are the candidates that pass the first three tests, rid
of repeats, each name where it first occurs (`resolve_markers`). An annotation is a marker when
it matches one of them and no excluded name (`isMarker_iff`), and a configuration's marker set
is resolved from its own names followed by the project's (`effective_marker_set`).
-/

namespace ResultLint
namespace MarkerSet

theorem collect_eq (excluded : List String) (exemption : String) :
    ∀ (acc names : List String), collect excluded exemption acc names =
      acc ++ (names.filter fun n => n ≠ exemption ∧ n ≠ TypeName.shortName exemption ∧
        n ∉ excluded ∧ n ∉ acc).eraseDups
  | acc, [] => by simp [collect]
  | acc, name :: rest => by
    unfold collect
    by_cases hskip :
        name = exemption ∨ name = TypeName.shortName exemption ∨ name ∈ excluded ∨ name ∈ acc
    · have hout : ¬ (name ≠ exemption ∧ name ≠ TypeName.shortName exemption ∧
          name ∉ excluded ∧ name ∉ acc) := by
        rintro ⟨h1, h2, h3, h4⟩
        rcases hskip with h | h | h | h <;> contradiction
      rw [if_pos hskip, collect_eq excluded exemption acc rest,
        List.filter_cons_of_neg (by simpa using hout)]
    · have hin : name ≠ exemption ∧ name ≠ TypeName.shortName exemption ∧
          name ∉ excluded ∧ name ∉ acc := by simpa only [not_or] using hskip
      -- the new name joins the kept ones, so later copies of it fail the last test
      have hrest : (rest.filter fun n => n ≠ exemption ∧ n ≠ TypeName.shortName exemption ∧
            n ∉ excluded ∧ n ∉ acc ++ [name]) =
          ((rest.filter fun n => n ≠ exemption ∧ n ≠ TypeName.shortName exemption ∧
            n ∉ excluded ∧ n ∉ acc).filter fun n => !n == name) := by
        rw [List.filter_filter]
        refine List.filter_congr fun n _ => ?_
        by_cases hn : n = name <;> simp [hn, hin]
      rw [if_neg hskip, collect_eq excluded exemption (acc ++ [name]) rest,
        List.filter_cons_of_pos (by simpa using hin), List.eraseDups_cons, hrest]
      simp

/-- The markers of a resolved set: the profile's and the configured candidates, without the
exemption, its short name and the excluded names, each kept once where it first occurs. -/
theorem resolve_markers (profile : Profile) (custom excluded : List String)
    (exemption : String) :
    (resolve profile custom excluded exemption).markers =
      ((profile.markers ++ custom).filter fun n =>
        n ≠ exemption ∧ n ≠ TypeName.shortName exemption ∧ n ∉ excluded).eraseDups := by
  have h := collect_eq excluded exemption [] (profile.markers ++ custom)
  simp only [List.nil_append, List.not_mem_nil, not_false_eq_true, and_true] at h
  exact h

-- the exemption's short name, an excluded name and a repeat are dropped
example : (resolve .optional ["x.Ign", "Ign", "y.R", "x.Ign"] ["y.R"] "a.Ign").markers =
    [optionalMarker, "x.Ign"] := by decide

/-- An annotation is a marker when it matches some marker and no excluded name. -/
theorem isMarker_iff (m : MarkerSet) (a : Annotation) :
    m.isMarker a = true ↔
      (∃ n ∈ m.markers, a.matchesName n = true) ∧ ∀ x ∈ m.excluded, a.matchesName x = false := by
  simp [isMarker, List.any_eq_true, List.any_eq_false]

/-- The effective markers of a resolved set, the annotations it takes for markers, and the
names a configuration resolves its set from. -/
theorem effective_marker_set :
    (∀ (profile : Profile) (custom excluded : List String) (exemption : String),
      (resolve profile custom excluded exemption).markers =
          ((profile.markers ++ custom).filter fun n =>
            n ≠ exemption ∧ n ≠ TypeName.shortName exemption ∧ n ∉ excluded).eraseDups ∧
        ∀ a : Annotation, (resolve profile custom excluded exemption).isMarker a = true ↔
          (∃ n ∈ (resolve profile custom excluded exemption).markers, a.matchesName n = true) ∧
            ∀ x ∈ excluded, a.matchesName x = false) ∧
    ∀ (c : Config) (p : Properties), c.markerSet p =
      resolve c.profile (c.annotations.custom ++ p.customAnnotations)
        (c.annotations.exclude ++ p.excludeAnnotations) c.annotations.exemption := by
  refine ⟨fun profile custom excluded exemption => ⟨?_, fun a => ?_⟩, fun _ _ => rfl⟩
  · exact resolve_markers profile custom excluded exemption
  · exact isMarker_iff _ a

end MarkerSet
end ResultLint
