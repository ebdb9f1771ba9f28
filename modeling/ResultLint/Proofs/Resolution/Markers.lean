import ResultLint.Resolution

/-!
# The marker in effect for a method

The marker of a method is looked for in scopes, nearest first: the method itself, each class of
its owner chain from the declaring class outward, and last its package, where the annotations of
the package descriptions come before the unit's own file annotations (`Project.scopeLevels`).
The first scope that holds the exemption or a marker settles the search: it gives no marker if
it holds the exemption anywhere, even after a marker, and else its first marker
(`appliedMarker_nearest_scope`).
-/

namespace ResultLint

namespace MarkerSet

variable (m : MarkerSet)

/-- Whether a scope says anything about a result: it holds the exemption or a marker. -/
def speaks (as : List Annotation) : Bool := as.any fun a => m.isExemption a || m.isMarker a

/-- What a scope that speaks settles: no marker when it holds the exemption, else its first
marker. -/
def settle (as : List Annotation) : Option Annotation :=
  if m.containsExemption as then none else m.findMarker? as

variable {m}

theorem verdict_of_silent {as : List Annotation} (h : m.speaks as = false) :
    m.verdict as = .silent := by
  simp only [speaks, List.any_eq_false, Bool.or_eq_true, not_or] at h
  have hex : as.any m.isExemption = false := List.any_eq_false.mpr fun a ha => by
    simpa using (h a ha).1
  have hmk : as.find? m.isMarker = none := List.find?_eq_none.mpr fun a ha => by
    simpa using (h a ha).2
  simp only [verdict, hex, hmk, Bool.false_eq_true, if_false]

theorem verdict_of_marked {as : List Annotation} (hs : m.speaks as = true)
    (hex : m.containsExemption as = false) :
    ∃ a, m.findMarker? as = some a ∧ m.verdict as = .marked a := by
  simp only [containsExemption] at hex
  obtain ⟨b, hb, hbs⟩ := List.any_eq_true.mp hs
  have hmb : m.isMarker b = true := by
    simpa [List.any_eq_false.mp hex b hb] using hbs
  obtain ⟨a, ha⟩ := Option.ne_none_iff_exists'.mp fun (hn : as.find? m.isMarker = none) => by
    simp [List.find?_eq_none.mp hn b hb] at hmb
  exact ⟨a, ha, by simp only [verdict, hex, Bool.false_eq_true, if_false, ha]⟩

theorem verdict_cases (as : List Annotation) :
    (m.speaks as = false ∧ m.verdict as = .silent) ∨
    (m.speaks as = true ∧ m.verdict as = .exempt ∧ m.settle as = none) ∨
    (∃ a, m.speaks as = true ∧ m.verdict as = .marked a ∧ m.settle as = some a) := by
  cases hs : m.speaks as with
  | false => exact .inl ⟨rfl, verdict_of_silent hs⟩
  | true =>
    cases hex : m.containsExemption as with
    | true =>
      refine .inr (.inl ⟨rfl, ?_, by simp [settle, hex]⟩)
      simp only [containsExemption] at hex
      simp only [verdict, hex, if_true]
    | false =>
      obtain ⟨a, ha, hv⟩ := verdict_of_marked hs hex
      exact .inr (.inr ⟨a, rfl, hv, by simp [settle, hex, ha]⟩)

end MarkerSet

namespace Project

variable (p : Project) (m : MarkerSet)

/-- The scopes searched for the marker of a method, nearest first: the method, each class of its
owner chain from the declaring class outward, and the package, whose descriptions' annotations
come before the unit's file annotations. -/
def scopeLevels (r : MethodRef) : List (List Annotation) :=
  (p.method r).annotations :: (p.ownerChain r).map ClassDecl.annotations ++
    [((p.units[r.unit]?).map p.packageScope).getD []]

theorem appliedMarker_classes_eq (r : MethodRef) (cs : List ClassDecl) :
    appliedMarker.classes p m r cs =
      ((cs.map ClassDecl.annotations ++ [((p.units[r.unit]?).map p.packageScope).getD []]).find?
        m.speaks).bind m.settle := by
  induction cs with
  | nil =>
    simp only [appliedMarker.classes, List.map_nil, List.nil_append, List.find?_singleton]
    rcases m.verdict_cases (((p.units[r.unit]?).map p.packageScope).getD []) with
      ⟨hs, hv⟩ | ⟨hs, hv, hset⟩ | ⟨a, hs, hv, hset⟩
    · simp [hs, hv]
    · simp [hs, hv, hset]
    · simp [hs, hv, hset]
  | cons c cs ih =>
    simp only [appliedMarker.classes, List.map_cons, List.cons_append, List.find?_cons]
    rcases m.verdict_cases c.annotations with ⟨hs, hv⟩ | ⟨hs, hv, hset⟩ | ⟨a, hs, hv, hset⟩
    · simp [hs, hv, ih]
    · simp [hs, hv, hset]
    · simp [hs, hv, hset]

/-- The marker in effect for a method is settled by the nearest scope that holds the exemption
or a marker: none if that scope holds the exemption, else its first marker; and none if no scope
speaks. -/
theorem appliedMarker_nearest_scope (r : MethodRef) :
    p.appliedMarker m r = ((p.scopeLevels r).find? m.speaks).bind m.settle := by
  simp only [appliedMarker, scopeLevels, List.cons_append, List.find?_cons]
  rcases m.verdict_cases (p.method r).annotations with
    ⟨hs, hv⟩ | ⟨hs, hv, hset⟩ | ⟨a, hs, hv, hset⟩
  · simp [hs, hv, appliedMarker_classes_eq]
  · simp [hs, hv, hset]
  · simp [hs, hv, hset]

end Project

end ResultLint
