import ResultLint.Resolution
import ResultLint.Proofs.Project.Tables

/-!
# Resolving a call

A call is matched against the methods of its name that are not constructors and accept its
number of arguments (`Project.matchingMethods`). What the receiver says about the declaring class
can only narrow that list: the candidates keep its order and hold no method twice
(`candidates_sublist`), and the narrowing leaves nothing only when a named receiver has a known
type that declares none of the methods (`candidates_eq_nil_iff`). A call resolves exactly when
every candidate has a marker in effect; the target is then the first candidate with its marker,
and its owner is the first candidate's declaring class when every candidate's declaring class has
the same qualified name (`resolve_eq_some_iff`).
-/

open List

namespace ResultLint

namespace Project

variable (p : Project)

/-- The methods a call can reach by name and arity alone: the methods of its name that are not
constructors and accept its number of arguments. -/
def matchingMethods (call : CallSite) : List MethodRef :=
  (p.methodsNamed call.name).filter fun r =>
    !(p.method r).isConstructor && (p.method r).acceptsArity call.arity

/-- The class that declares a method, if it is a member of one. -/
def declaringClass (r : MethodRef) : Option ClassDecl :=
  (p.units[r.unit]?).bind fun u =>
    ((u.methods[r.method]?).bind MethodDecl.owner).bind (u.classes[·]?)

theorem ownerChain_head? (r : MethodRef) : (p.ownerChain r).head? = p.declaringClass r := by
  unfold ownerChain declaringClass
  cases p.units[r.unit]? with
  | none => rfl
  | some u =>
    simp only [Option.bind_some]
    cases (u.methods[r.method]?).bind MethodDecl.owner with
    | none => rfl
    | some c =>
      simp only [SourceUnit.classChain, SourceUnit.classChain.go, Option.bind_some]
      cases u.classes[c]? <;> rfl

theorem mem_matchingMethods {call : CallSite} {r : MethodRef} :
    r ∈ p.matchingMethods call ↔ r ∈ p.methodsNamed call.name ∧
      (p.method r).isConstructor = false ∧ (p.method r).acceptsArity call.arity = true := by
  simp [matchingMethods]

theorem receiverType_eq_some_iff {call : CallSite} {name t : String} :
    p.receiverType call name = some t ↔
      call.receiverType = some t ∨
        (call.receiverType = none ∧ t = name ∧
          (p.declaresClass name = true ∨ name.toList.head?.map Text.isUppercase = some true)) := by
  unfold receiverType
  cases call.receiverType with
  | some s => simp
  | none =>
    cases h : name.toList.head?.map Text.isUppercase with
    | none => by_cases hd : p.declaresClass name = true <;> simp [hd, eq_comm]
    | some b => cases b <;> by_cases hd : p.declaresClass name = true <;> simp [hd, eq_comm]

/-- The candidates keep the order of the matching methods. -/
theorem candidates_sublist (unitIndex : Nat) (call : CallSite) :
    p.candidates unitIndex call <+ p.matchingMethods call := by
  simp only [candidates, matchingMethods]
  split
  · exact List.nil_sublist _
  · cases hr : call.receiver with
    | implicit | this =>
      simp only
      split
      · exact List.filter_sublist
      · split
        · exact List.Sublist.refl _
        · exact List.filter_sublist
    | named name =>
      simp only
      cases p.receiverType call name with
      | some t => exact List.filter_sublist
      | none =>
        simp only
        split
        · exact List.Sublist.refl _
        · exact List.filter_sublist
    | expression => exact List.Sublist.refl _

theorem method_of_mem_candidates {unitIndex : Nat} {call : CallSite} {r : MethodRef}
    (h : r ∈ p.candidates unitIndex call) :
    (p.method r).name = call.name ∧ (p.method r).isConstructor = false ∧
      (p.method r).acceptsArity call.arity = true := by
  obtain ⟨hnamed, hcons, harity⟩ :=
    (p.mem_matchingMethods).mp ((p.candidates_sublist unitIndex call).subset h)
  exact ⟨p.name_of_mem_methodsNamed hnamed, hcons, harity⟩

theorem candidates_nodup (unitIndex : Nat) (call : CallSite) :
    (p.candidates unitIndex call).Nodup :=
  (p.candidates_sublist unitIndex call).nodup ((p.methodsNamed_nodup call.name).filter _)

theorem fallback_ne_nil {α : Type} {l M : List α} (hM : M ≠ []) :
    (if l.isEmpty then M else l) ≠ [] := by
  split
  · exact hM
  · simpa using ‹¬ l.isEmpty = true›

/-- Only a named receiver of known type that declares none of the matching methods leaves a call
without candidates. -/
theorem candidates_eq_nil_iff (unitIndex : Nat) (call : CallSite) :
    p.candidates unitIndex call = [] ↔
      p.matchingMethods call = [] ∨
        ∃ name t, call.receiver = .named name ∧ p.receiverType call name = some t ∧
          ∀ r ∈ p.matchingMethods call, p.declaredOn r t = false := by
  by_cases hM : p.matchingMethods call = []
  · have hc : p.candidates unitIndex call = [] :=
      List.eq_nil_of_sublist_nil (hM ▸ p.candidates_sublist unitIndex call)
    simp [hM, hc]
  simp only [candidates]
  rw [show List.filter _ (p.methodsNamed call.name) = p.matchingMethods call from rfl]
  generalize p.matchingMethods call = M at hM ⊢
  rw [if_neg (by simpa using hM)]
  cases hr : call.receiver with
  | implicit | this =>
    refine iff_of_false ?_ (by simp [hM])
    simp only
    split
    · rename_i hmembers
      simpa using hmembers
    · exact fallback_ne_nil hM
  | named name =>
    simp only
    cases ht : p.receiverType call name with
    | some t =>
      simp only [List.filter_eq_nil_iff, hM, false_or]
      constructor
      · intro h
        exact ⟨name, t, rfl, ht, fun r hr => by simpa using h r hr⟩
      · rintro ⟨name', t', hn, ht', hall⟩ r hr
        cases hn
        rw [ht] at ht'
        cases ht'
        simp [hall r hr]
    | none =>
      refine iff_of_false (fallback_ne_nil hM) ?_
      rintro (h | ⟨name', t', hn, ht', -⟩)
      · exact hM h
      · cases hn
        rw [ht] at ht'
        cases ht'
  | expression => exact iff_of_false hM (by simp [hM])

section Resolve

variable (m : MarkerSet) (unitIndex : Nat) (call : CallSite)

/-- A call resolves to a target exactly when every candidate has a marker in effect: the target
is the first candidate with its marker, and its owner is the first candidate's declaring class
when every candidate's declaring class has that qualified name. -/
theorem resolve_eq_some_iff (t : Target) :
    p.resolve m unitIndex call = some t ↔
      ∃ rest, p.candidates unitIndex call = t.method :: rest ∧
        (∀ r ∈ p.candidates unitIndex call, (p.appliedMarker m r).isSome) ∧
        p.appliedMarker m t.method = some t.marker ∧ t.decl = p.method t.method ∧
        t.owner =
          if ∀ r ∈ p.candidates unitIndex call, (p.declaringClass r).map ClassDecl.qualifiedName =
              (p.declaringClass t.method).map ClassDecl.qualifiedName
          then p.declaringClass t.method else none := by
  obtain ⟨method, decl, owner, marker⟩ := t
  unfold resolve
  cases hc : p.candidates unitIndex call with
  | nil => simp
  | cons first rest =>
    cases hm : p.appliedMarker m first with
    | none =>
      simp only [hm, reduceCtorEq, false_iff, not_exists, not_and]
      rintro _ ⟨rfl, -⟩ hall
      have hfirst := hall _ List.mem_cons_self
      simp [hm] at hfirst
    | some k =>
      by_cases hrest : (rest.any fun r => (p.appliedMarker m r).isNone) = true
      · -- another candidate is unmarked
        obtain ⟨r, hr, hnone⟩ := List.any_eq_true.mp hrest
        simp only [hm, hrest, if_true, reduceCtorEq, false_iff, not_exists, not_and]
        rintro _ - hall - - -
        have hr' := hall r (List.mem_cons_of_mem _ hr)
        simp [Option.isNone_iff_eq_none.mp hnone] at hr'
      · have hall : ∀ r ∈ first :: rest, (p.appliedMarker m r).isSome := by
          simpa [hm, Option.isSome_iff_ne_none] using hrest
        simp only [hm, hrest, Bool.false_eq_true, if_false, ownerChain_head?, Option.some.injEq,
          Target.mk.injEq, List.cons.injEq, List.all_eq_true, beq_iff_eq]
        constructor
        · rintro ⟨rfl, rfl, rfl, rfl⟩
          exact ⟨rest, ⟨rfl, rfl⟩, hall, hm, rfl, rfl⟩
        · rintro ⟨_, ⟨rfl, rfl⟩, -, hk, rfl, rfl⟩
          rw [hm] at hk
          cases hk
          exact ⟨rfl, rfl, rfl, rfl⟩

/-- A call resolves exactly when it has candidates and every one of them has a marker in
effect. -/
theorem resolve_isSome_iff :
    (p.resolve m unitIndex call).isSome ↔
      p.candidates unitIndex call ≠ [] ∧
        ∀ r ∈ p.candidates unitIndex call, (p.appliedMarker m r).isSome := by
  constructor
  · intro h
    obtain ⟨t, ht⟩ := Option.isSome_iff_exists.mp h
    obtain ⟨rest, hc, hall, -⟩ := (p.resolve_eq_some_iff m unitIndex call t).mp ht
    exact ⟨by simp [hc], hall⟩
  · rintro ⟨hne, hall⟩
    obtain ⟨first, rest, hc⟩ := List.exists_cons_of_ne_nil hne
    obtain ⟨k, hk⟩ := Option.isSome_iff_exists.mp (hall first (by simp [hc]))
    let owner := if ∀ r ∈ p.candidates unitIndex call,
        (p.declaringClass r).map ClassDecl.qualifiedName =
          (p.declaringClass first).map ClassDecl.qualifiedName
      then p.declaringClass first else none
    exact Option.isSome_iff_exists.mpr ⟨⟨first, p.method first, owner, k⟩,
      (p.resolve_eq_some_iff m unitIndex call _).mpr ⟨rest, hc, hall, hk, rfl, rfl⟩⟩

/-- How a call is resolved. Its candidates are the methods of its name that are no constructors
and accept its arguments, in their order and each once, and a named receiver whose type is known
(declared, or the receiver's own name when that names a declared class or is capitalised) is the
only thing that can leave none of them. The call resolves exactly when every candidate has a
marker in effect, to the first candidate and its marker; the target's owner is the first
candidate's declaring class when every candidate's declaring class has its qualified name, and
none otherwise. -/
theorem call_resolution :
    p.candidates unitIndex call <+ p.matchingMethods call ∧
    (∀ r ∈ p.candidates unitIndex call, (p.method r).name = call.name ∧
      (p.method r).isConstructor = false ∧ (p.method r).acceptsArity call.arity = true) ∧
    (p.candidates unitIndex call).Nodup ∧
    (p.candidates unitIndex call = [] ↔
      p.matchingMethods call = [] ∨
        ∃ name t, call.receiver = .named name ∧
          (call.receiverType = some t ∨
            (call.receiverType = none ∧ t = name ∧
              (p.declaresClass name = true ∨ name.toList.head?.map Text.isUppercase = some true))) ∧
          ∀ r ∈ p.matchingMethods call, p.declaredOn r t = false) ∧
    ((p.resolve m unitIndex call).isSome ↔
      p.candidates unitIndex call ≠ [] ∧
        ∀ r ∈ p.candidates unitIndex call, (p.appliedMarker m r).isSome) ∧
    ∀ t, p.resolve m unitIndex call = some t ↔
      ∃ rest, p.candidates unitIndex call = t.method :: rest ∧
        (∀ r ∈ p.candidates unitIndex call, (p.appliedMarker m r).isSome) ∧
        p.appliedMarker m t.method = some t.marker ∧ t.decl = p.method t.method ∧
        t.owner =
          if ∀ r ∈ p.candidates unitIndex call, (p.declaringClass r).map ClassDecl.qualifiedName =
              (p.declaringClass t.method).map ClassDecl.qualifiedName
          then p.declaringClass t.method else none :=
  ⟨p.candidates_sublist unitIndex call, fun _ => p.method_of_mem_candidates,
    p.candidates_nodup unitIndex call,
    (p.candidates_eq_nil_iff unitIndex call).trans (by simp only [receiverType_eq_some_iff]),
    p.resolve_isSome_iff m unitIndex call, p.resolve_eq_some_iff m unitIndex call⟩

end Resolve

end Project

end ResultLint
