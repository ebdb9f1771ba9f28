import ResultLint.Analysis
import ResultLint.Proofs.Findings.Order

/-!
# What an analysis reports

`Analysis.specified` lists the findings an analysis is meant to report, in the words of the
checks: for each unit and each of its calls, a finding on a discarded result that nothing
exempts; for each unit, a conflict on each class and then on each method carrying a marker and
the exemption, and a finding on each method returning nothing that carries either.

A run checks unit by unit, sorts the findings of each check, and sorts them again together, and
it lists a method's conflict and its misplaced marker side by side. None of this shows in the
result: a run reports exactly the specified findings in report order (`run_eq_sort_specified`).
Sorting sorted blocks is sorting their concatenation (`Finding.sort_append_sort`), and the order
of two findings matters to the stable sort only when they are tied, which findings of different
issues never are (`Finding.issue_eq_of_tied`).
-/

open List

namespace ResultLint

/-- Only findings of one issue can be tied in the report order. -/
theorem Finding.issue_eq_of_tied {x y : Finding} (hxy : x.le y = true) (hyx : y.le x = true) :
    y.issue = x.issue := by
  rw [le_iff] at hxy hyx
  -- neither file comes first, so both are at one place with one code
  have hsame : Path.components x.location.file = Path.components y.location.file := by
    rcases hxy with h₁ | ⟨h₁, -⟩ <;> rcases hyx with h₂ | ⟨h₂, -⟩
    · simpa [Path.lt, Path.componentsLt_irrefl] using Path.componentsLt_trans h₁ h₂
    · simp [Path.lt, h₂, Path.componentsLt_irrefl] at h₁
    · simp [Path.lt, h₁, Path.componentsLt_irrefl] at h₂
    · exact h₁
  have hlt : ∀ f g : Finding, Path.components f.location.file = Path.components g.location.file →
      Path.lt f.location.file g.location.file = false := fun f g h => by
    simp [Path.lt, h, Path.componentsLt_irrefl]
  simp only [hlt x y hsame, hlt y x hsame.symm, Bool.false_eq_true, false_or, hsame,
    true_and] at hxy hyx
  have hcode : y.issue.code = x.issue.code := by
    rcases hxy with h₁ | ⟨e₁, h₁ | ⟨e₁', h₁⟩⟩ <;> rcases hyx with h₂ | ⟨e₂, h₂ | ⟨e₂', h₂⟩⟩ <;>
      first
      | omega
      | exact le_antisymm h₂ h₁
  cases hx : x.issue <;> cases hy : y.issue <;> simp_all [IssueKind.code]

namespace Analysis

/-- The finding specified on a call: the call resolves to a target whose marker is not the
exemption, no scope around the call holds the exemption, and the call's result is discarded. It
stands at the call, names the target's declaration, and takes the message and suggested fix of
the report on the target. -/
def findingOnCall? (a : Analysis) (p : Project) (unitIndex : Nat) (u : SourceUnit)
    (call : CallSite) : Option Finding :=
  (p.resolve a.markers unitIndex call).bind fun t =>
    let scopes := p.scopesAt unitIndex call
    if a.markers.isExemption t.marker = false ∧ scopes.all.any a.markers.isExemption = false ∧
        u.tree.isValueDiscarded call.node = true then
      (a.policy.report? t.decl.name (t.owner.map ClassDecl.qualifiedName) t.marker scopes
          true).map fun r =>
        { issue := .ignoredReturnValue, location := call.location, name := t.decl.name,
          message := r.message, fix := r.suggestion }
    else none

/-- The conflict specified on a declaration, a class or a method: its annotations hold a marker
and the exemption, and the finding names the first marker. -/
def conflict? (a : Analysis) (what name : String) (annotations : List Annotation)
    (location : Location) : Option Finding :=
  (a.markers.findMarker? annotations).bind fun marker =>
    if a.markers.containsExemption annotations then some (a.conflict marker what name location)
    else none

/-- The finding specified on a method that returns nothing and is not a constructor, when it
carries a marker or the exemption: it names the first marker, else the first exemption. -/
def voidAnnotation? (a : Analysis) (m : MethodDecl) : Option Finding :=
  if m.isConstructor = false ∧ m.returnsVoid = some true then
    ((a.markers.findMarker? m.annotations).orElse fun _ =>
        a.markers.findExemption? m.annotations).map fun an =>
      { issue := .annotationOnVoidMethod, location := m.location, name := m.name,
        message := s!"@{an.simpleName} may not be applied to void-returning methods" }
  else none

/-- The misused markers specified for one unit: the conflicts on its classes, then the conflicts
on its methods, then the findings on its methods returning nothing. -/
def specifiedMisuses (a : Analysis) (u : SourceUnit) : List Finding :=
  u.classes.toList.filterMap (fun c => a.conflict? "class" c.name c.annotations c.location) ++
    u.methods.toList.filterMap (fun m => a.conflict? "method" m.name m.annotations m.location) ++
    u.methods.toList.filterMap a.voidAnnotation?

/-- The findings specified for a project, before ordering: when discarded results are checked,
the finding on each call of each unit, units and calls in order; then, when misuse is checked,
the misused markers of each unit in order. -/
def specified (a : Analysis) (p : Project) : List Finding :=
  (if a.ignoredReturn then
    p.units.toList.zipIdx.flatMap fun e => e.1.calls.toList.filterMap (a.findingOnCall? p e.2 e.1)
  else []) ++
  (if a.misuse then p.units.toList.flatMap a.specifiedMisuses else [])

end Analysis

/-! ## Each check against its specification -/

/-- A report is made when the marker is not the exemption, no scope holds the exemption and the
result is discarded, and then says what it says of a discarded result. -/
theorem Policy.report?_eq (pol : Policy) (name : String) (owner : Option String)
    (marker : Annotation) (scopes : Scopes) (discarded : Bool) :
    pol.report? name owner marker scopes discarded =
      if pol.markers.isExemption marker = false ∧ scopes.all.any pol.markers.isExemption = false ∧
          discarded = true then pol.report? name owner marker scopes true
      else none := by
  unfold Policy.report?
  by_cases hm : pol.markers.isExemption marker = true <;>
    by_cases hs : scopes.all.any pol.markers.isExemption = true <;> cases discarded <;>
      simp [hm, hs]

theorem Policy.method_of_report? {pol : Policy} {name : String} {owner : Option String}
    {marker : Annotation} {scopes : Scopes} {discarded : Bool} {r : ResultReport}
    (h : pol.report? name owner marker scopes discarded = some r) : r.method = name := by
  unfold Policy.report? at h
  split_ifs at h
  cases h
  rfl

namespace Analysis

theorem checkCall_eq_findingOnCall? (a : Analysis) (p : Project) (unitIndex : Nat)
    (u : SourceUnit) (call : CallSite) :
    a.checkCall p unitIndex u call = a.findingOnCall? p unitIndex u call := by
  have hmarkers : a.policy.markers = a.markers := rfl
  unfold checkCall findingOnCall?
  congr 1
  funext t
  dsimp only
  rw [Policy.report?_eq, hmarkers]
  split_ifs
  · exact Option.map_congr fun r hr => by rw [Policy.method_of_report? hr]
  · rfl

/-- The findings on discarded results are those specified on each call, sorted. -/
theorem ignoredReturns_eq (a : Analysis) (p : Project) :
    a.ignoredReturns p = Finding.sort (p.units.toList.zipIdx.flatMap fun e =>
      e.1.calls.toList.filterMap (a.findingOnCall? p e.2 e.1)) := by
  unfold ignoredReturns
  congr 1
  congr 1
  funext e
  obtain ⟨u, unitIndex⟩ := e
  simp only [checkCall_eq_findingOnCall?]

theorem issue_of_conflict? {a : Analysis} {what name : String} {annotations : List Annotation}
    {location : Location} {f : Finding} (h : a.conflict? what name annotations location = some f) :
    f.issue = .conflictingAnnotations := by
  unfold conflict? at h
  obtain ⟨marker, -, h⟩ := Option.bind_eq_some_iff.1 h
  split at h
  · cases h
    rfl
  · cases h

theorem issue_of_voidAnnotation? {a : Analysis} {m : MethodDecl} {f : Finding}
    (h : a.voidAnnotation? m = some f) : f.issue = .annotationOnVoidMethod := by
  unfold voidAnnotation? at h
  split at h
  · obtain ⟨an, -, rfl⟩ := Option.map_eq_some_iff.1 h
    rfl
  · cases h

theorem unitMisuses_eq (a : Analysis) (u : SourceUnit) :
    a.unitMisuses u =
      u.classes.toList.filterMap (fun c => a.conflict? "class" c.name c.annotations c.location) ++
        u.methods.toList.flatMap fun m =>
          (a.conflict? "method" m.name m.annotations m.location).toList ++
            (a.voidAnnotation? m).toList := by
  unfold unitMisuses
  dsimp only
  congr 1
  · congr 1
    funext c
    unfold conflict?
    cases a.markers.findMarker? c.annotations <;> rfl
  · congr 1
    funext m
    congr 1
    · have hfound : (a.markers.findExemption? m.annotations).isSome =
          a.markers.containsExemption m.annotations := by
        rw [MarkerSet.findExemption?, MarkerSet.containsExemption]
        exact Bool.eq_iff_iff.2 (by rw [find?_isSome, any_eq_true])
      unfold conflict?
      cases a.markers.findMarker? m.annotations with
      | none => rfl
      | some marker =>
        cases he : a.markers.findExemption? m.annotations <;> simp_all
    · unfold voidAnnotation?
      by_cases hv : m.isConstructor = false ∧ m.returnsVoid = some true
      · rw [if_pos hv, if_neg (by simp [hv.1, hv.2])]
        cases (a.markers.findMarker? m.annotations).orElse
          (fun _ => a.markers.findExemption? m.annotations) <;> rfl
      · rw [if_neg hv, if_pos]
        · rfl
        · cases hc : m.isConstructor <;> simp_all

end Analysis

theorem filter_flatMap_append {α β : Type} {p : β → Bool} {f g : α → List β} (l : List α)
    (h : (∀ a, ∀ y ∈ f a, p y = false) ∨ ∀ a, ∀ y ∈ g a, p y = false) :
    (l.flatMap fun a => f a ++ g a).filter p = (l.flatMap f ++ l.flatMap g).filter p := by
  rcases h with h | h
  · have hf : ∀ a, (f a).filter p = [] := fun a =>
      filter_eq_nil_iff.2 fun y hy => by simp [h a y hy]
    simp [filter_flatMap, filter_append, hf]
  · have hg : ∀ a, (g a).filter p = [] := fun a =>
      filter_eq_nil_iff.2 fun y hy => by simp [h a y hy]
    simp [filter_flatMap, filter_append, hg]

namespace Analysis

theorem misuses_filter_tied (a : Analysis) (p : Project) (x : Finding) :
    (p.units.toList.flatMap a.unitMisuses).filter (fun y => x.le y && y.le x) =
      (p.units.toList.flatMap a.specifiedMisuses).filter (fun y => x.le y && y.le x) := by
  rw [filter_flatMap, filter_flatMap]
  congr 1
  funext u
  have htied : ∀ y, (x.le y && y.le x) = true → y.issue = x.issue := fun y hy => by
    simp only [Bool.and_eq_true] at hy
    exact Finding.issue_eq_of_tied hy.1 hy.2
  have hmethods : (u.methods.toList.flatMap fun m =>
        (a.conflict? "method" m.name m.annotations m.location).toList ++
          (a.voidAnnotation? m).toList).filter (fun y => x.le y && y.le x) =
      (u.methods.toList.filterMap (fun m => a.conflict? "method" m.name m.annotations m.location) ++
        u.methods.toList.filterMap a.voidAnnotation?).filter (fun y => x.le y && y.le x) := by
    rw [filterMap_eq_flatMap_toList, filterMap_eq_flatMap_toList]
    refine filter_flatMap_append _ ?_
    by_cases hx : x.issue = .conflictingAnnotations
    · right
      intro m y hy
      have hvoid := issue_of_voidAnnotation? (Option.mem_toList.1 hy)
      by_contra hne
      simp [htied y (by simpa using hne), hx] at hvoid
    · left
      intro m y hy
      have hconflict := issue_of_conflict? (Option.mem_toList.1 hy)
      by_contra hne
      exact hx ((htied y (by simpa using hne)).symm.trans hconflict)
  rw [unitMisuses_eq, specifiedMisuses, append_assoc, filter_append, filter_append, hmethods]

/-- A run reports exactly the specified findings, each once, in report order: the stable sort of
the specified findings by file (compared component by component), line, column and issue code.
Checking unit by unit and sorting each check's findings before sorting them all changes
nothing. -/
theorem run_eq_sort_specified (a : Analysis) (p : Project) :
    a.run p = Finding.sort (a.specified p) := by
  have hsort : ∀ (b : Bool) (fs : List Finding),
      (if b then Finding.sort fs else []) = Finding.sort (if b then fs else []) := by
    intro b fs
    cases b <;> simp [Finding.sort]
  unfold run misuses specified
  rw [ignoredReturns_eq, hsort, hsort, Finding.sort_append_sort]
  refine Finding.sort_eq_of_filter fun x => ?_
  rw [filter_append, filter_append]
  congr 1
  cases a.misuse
  · rfl
  · exact misuses_filter_tied a p x

end Analysis

end ResultLint
