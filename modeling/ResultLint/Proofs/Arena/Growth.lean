import Mathlib.Data.List.Basic
import ResultLint.Proofs.Lowering

/-!
# How an arena grows

A lowering changes an arena in three ways only: it appends a node under an earlier one, records
a binding at a node, and makes a node the selector of a chain. The last two change one field of
one node. This module reads a node's byte range, the classes around a node, and states what each
change keeps: a node's kind, parent and range, the children of every node but the new parent, and
so the ancestors of every node and the classes around it.
-/

namespace ResultLint
namespace Arena

variable (a : Arena)

/-- The byte range of a node; an index outside the arena reads as the empty range at 0. -/
def spanOf (i : Nat) : Span := ((a.get? i).map Node.span).getD ⟨0, 0⟩

/-- The classes declared at the strict ancestors of a node, innermost first. -/
def classesAbove (i : Nat) : List Nat :=
  (a.ancestors i).filterMap fun x =>
    match a.bindingOf x with
    | some (.type c) => some c
    | _ => none

/-- The innermost class declared at a node or at one of its ancestors. -/
def classAt (p : Nat) : Option Nat :=
  match a.bindingOf p with
  | some (.type c) => some c
  | _ => (a.classesAbove p).head?

variable {a}

/-! ## Walking up -/

theorem ancestors_of_parent {i p : Nat} (h : a.parentOf i = some p) :
    a.ancestors i = p :: a.ancestors p := by
  rw [ancestors]
  split <;> simp_all

theorem ancestors_of_root {i : Nat} (h : a.parentOf i = none) : a.ancestors i = [] := by
  rw [ancestors]
  split <;> simp_all

theorem lt_of_mem_ancestors : ∀ {i x : Nat}, x ∈ a.ancestors i → x < i := by
  intro i
  induction i using Nat.strongRecOn with
  | ind i ih =>
    intro x hx
    cases hp : a.parentOf i with
    | none => simp [ancestors_of_root hp] at hx
    | some p =>
      have hpi := parentOf_lt hp
      rw [ancestors_of_parent hp, List.mem_cons] at hx
      rcases hx with rfl | hx
      · exact hpi
      · exact Nat.lt_trans (ih p hpi hx) hpi

theorem classesAbove_of_parent {i p : Nat} (h : a.parentOf i = some p) :
    a.classesAbove i =
      (match a.bindingOf p with
        | some (.type c) => [c]
        | _ => []) ++ a.classesAbove p := by
  simp only [classesAbove, ancestors_of_parent h, List.filterMap_cons]
  cases hb : a.bindingOf p with
  | none => rfl
  | some x => cases x <;> rfl

theorem head?_classesAbove {i p : Nat} (h : a.parentOf i = some p) :
    (a.classesAbove i).head? = a.classAt p := by
  rw [classesAbove_of_parent h, classAt]
  cases hb : a.bindingOf p with
  | none => rfl
  | some x => cases x <;> rfl

theorem classesAbove_of_root {i : Nat} (h : a.parentOf i = none) : a.classesAbove i = [] := by
  simp [classesAbove, ancestors_of_root h]

/-! ## Arenas that agree below an index -/

section Agree

variable {a' : Arena} {i : Nat}

theorem kindOf_congr (h : a'.get? i = a.get? i) : a'.kindOf i = a.kindOf i := by
  simp [kindOf, h]

theorem parentOf_congr (h : a'.get? i = a.get? i) : a'.parentOf i = a.parentOf i := by
  simp [parentOf, h]

theorem spanOf_congr (h : a'.get? i = a.get? i) : a'.spanOf i = a.spanOf i := by
  simp [spanOf, h]

theorem bindingOf_congr (h : a'.get? i = a.get? i) : a'.bindingOf i = a.bindingOf i := by
  simp [bindingOf, h]

theorem selectorOf_congr (h : a'.get? i = a.get? i) : a'.selectorOf i = a.selectorOf i := by
  simp [selectorOf, h]

theorem ancestors_congr : ∀ {i : Nat}, (∀ j ≤ i, a'.parentOf j = a.parentOf j) →
    a'.ancestors i = a.ancestors i := by
  intro i
  induction i using Nat.strongRecOn with
  | ind i ih =>
    intro h
    have hpar := h i (Nat.le_refl i)
    cases hp : a.parentOf i with
    | none => rw [ancestors_of_root hp, ancestors_of_root (hpar.trans hp)]
    | some p =>
      have hpi := parentOf_lt hp
      rw [ancestors_of_parent hp, ancestors_of_parent (hpar.trans hp),
        ih p hpi fun j hj => h j (by omega)]

/-- Two arenas whose nodes up to `i` have the same parents, and whose nodes below `i` have the
same bindings, agree on the classes around `i`. -/
theorem classesAbove_congr (hp : ∀ j ≤ i, a'.parentOf j = a.parentOf j)
    (hb : ∀ j < i, a'.bindingOf j = a.bindingOf j) : a'.classesAbove i = a.classesAbove i := by
  unfold classesAbove
  rw [ancestors_congr hp]
  -- the ancestors of `i` lie below it, where the bindings agree
  refine List.filterMap_congr fun x hx => ?_
  rw [hb x (lt_of_mem_ancestors hx)]

theorem classAt_congr (hp : ∀ j ≤ i, a'.parentOf j = a.parentOf j)
    (hb : ∀ j ≤ i, a'.bindingOf j = a.bindingOf j) : a'.classAt i = a.classAt i := by
  simp only [classAt, hb i (Nat.le_refl i),
    classesAbove_congr hp fun j hj => hb j (Nat.le_of_lt hj)]

theorem classAt_of_agree (h : ∀ j ≤ i, a'.get? j = a.get? j) : a'.classAt i = a.classAt i :=
  classAt_congr (fun j hj => parentOf_congr (h j hj)) (fun j hj => bindingOf_congr (h j hj))

end Agree

theorem get?_eq_none {i : Nat} (h : a.size ≤ i) : a.get? i = none := by
  simp only [get?, size] at *
  exact Array.getElem?_eq_none h

theorem exists_get? {i : Nat} (h : i < a.size) : ∃ n, a.get? i = some n :=
  Option.isSome_iff_exists.mp (by simpa [get?, size] using h)

theorem lt_size_of_kindOf {i : Nat} {k : NodeKind} (h : a.kindOf i = k) (hk : k ≠ .other) :
    i < a.size := by
  apply Nat.lt_of_not_le
  intro hle
  simp [kindOf, get?_eq_none hle] at h
  exact hk h.symm

theorem lt_size_of_bindingOf {i : Nat} {x : Binding} (h : a.bindingOf i = some x) :
    i < a.size := by
  apply Nat.lt_of_not_le
  intro hle
  simp [bindingOf, get?_eq_none hle] at h

theorem lt_size_of_parentOf {i p : Nat} (h : a.parentOf i = some p) : i < a.size := by
  apply Nat.lt_of_not_le
  intro hle
  rw [parentOf_eq_none_of_size_le hle] at h
  cases h

/-! ## Appending a node -/

section Push

variable (k : NodeKind) (P : Option Nat) (s : Span)

theorem get?_push_lt {i : Nat} (h : i < a.size) : (a.push k P s).1.get? i = a.get? i := by
  simp only [push, get?, size] at *
  rw [Array.getElem?_push, if_neg (Nat.ne_of_lt h)]

theorem get?_push_size :
    (a.push k P s).1.get? a.size =
      some { kind := k, parent := P.filter (· < a.size), span := s } := by
  simp only [push, get?, size]
  exact Array.getElem?_push_size

variable {P}

theorem filter_parent (hP : ∀ p ∈ P, p < a.size) : P.filter (· < a.size) = P := by
  cases P with
  | none => rfl
  | some p => simp [hP p rfl]

@[simp]
theorem kindOf_push_size : (a.push k P s).1.kindOf a.size = k := by
  simp [kindOf, get?_push_size]

theorem parentOf_push_size (hP : ∀ p ∈ P, p < a.size) : (a.push k P s).1.parentOf a.size = P := by
  simp [parentOf, get?_push_size, filter_parent hP]

@[simp]
theorem spanOf_push_size : (a.push k P s).1.spanOf a.size = s := by
  simp [spanOf, get?_push_size]

@[simp]
theorem bindingOf_push_size : (a.push k P s).1.bindingOf a.size = none := by
  simp [bindingOf, get?_push_size]

theorem get?_push_of_size_lt {i : Nat} (h : a.size < i) : (a.push k P s).1.get? i = none :=
  get?_eq_none (by rw [size_push]; omega)

theorem kindOf_push (i : Nat) :
    (a.push k P s).1.kindOf i = if i = a.size then k else a.kindOf i := by
  rcases Nat.lt_trichotomy i a.size with h | rfl | h
  · rw [if_neg (Nat.ne_of_lt h), kindOf_congr (get?_push_lt k P s h)]
  · rw [if_pos rfl, kindOf_push_size]
  · rw [if_neg (Nat.ne_of_gt h)]
    simp [kindOf, get?_push_of_size_lt k s h, get?_eq_none (Nat.le_of_lt h)]

theorem parentOf_push (hP : ∀ p ∈ P, p < a.size) (i : Nat) :
    (a.push k P s).1.parentOf i = if i = a.size then P else a.parentOf i := by
  rcases Nat.lt_trichotomy i a.size with h | rfl | h
  · rw [if_neg (Nat.ne_of_lt h), parentOf_congr (get?_push_lt k P s h)]
  · rw [if_pos rfl, parentOf_push_size k s hP]
  · rw [if_neg (Nat.ne_of_gt h)]
    simp [parentOf, get?_push_of_size_lt k s h, get?_eq_none (Nat.le_of_lt h)]

theorem spanOf_push (i : Nat) :
    (a.push k P s).1.spanOf i = if i = a.size then s else a.spanOf i := by
  rcases Nat.lt_trichotomy i a.size with h | rfl | h
  · rw [if_neg (Nat.ne_of_lt h), spanOf_congr (get?_push_lt k P s h)]
  · rw [if_pos rfl, spanOf_push_size]
  · rw [if_neg (Nat.ne_of_gt h)]
    simp [spanOf, get?_push_of_size_lt k s h, get?_eq_none (Nat.le_of_lt h)]

@[simp]
theorem bindingOf_push (i : Nat) : (a.push k P s).1.bindingOf i = a.bindingOf i := by
  rcases Nat.lt_trichotomy i a.size with h | rfl | h
  · exact bindingOf_congr (get?_push_lt k P s h)
  · rw [bindingOf_push_size]
    simp [bindingOf, get?_eq_none (Nat.le_refl _)]
  · simp [bindingOf, get?_push_of_size_lt k s h, get?_eq_none (Nat.le_of_lt h)]

end Push

/-! ## Changing one node -/

section Modify

variable {i : Nat} {f : Node → Node} {hf : ∀ n, (f n).parent = n.parent}

@[simp]
theorem size_modify : (a.modify i f hf).size = a.size := by
  simp [modify, size]

theorem get?_modify_ne {j : Nat} (h : i ≠ j) : (a.modify i f hf).get? j = a.get? j := by
  simp only [modify, get?]
  rw [Array.getElem?_modify, if_neg h]

theorem get?_modify_self : (a.modify i f hf).get? i = (a.get? i).map f := by
  simp only [modify, get?]
  rw [Array.getElem?_modify, if_pos rfl]

@[simp]
theorem parentOf_modify (j : Nat) : (a.modify i f hf).parentOf j = a.parentOf j := by
  by_cases h : i = j
  · subst h
    simp only [parentOf, get?_modify_self]
    cases a.get? i <;> simp [hf]
  · exact parentOf_congr (get?_modify_ne h)

@[simp]
theorem children_modify (q : Nat) : (a.modify i f hf).children q = a.children q := by
  simp only [children, size_modify, parentOf_modify]

end Modify

theorem get?_bind_ne {i j : Nat} {x : Binding} (h : i ≠ j) : (a.bind i x).get? j = a.get? j :=
  get?_modify_ne h

@[simp]
theorem size_bind (i : Nat) (x : Binding) : (a.bind i x).size = a.size := size_modify

@[simp]
theorem parentOf_bind (i j : Nat) (x : Binding) : (a.bind i x).parentOf j = a.parentOf j :=
  parentOf_modify j

@[simp]
theorem kindOf_bind (i j : Nat) (x : Binding) : (a.bind i x).kindOf j = a.kindOf j := by
  by_cases h : i = j
  · subst h
    simp only [kindOf, bind, get?_modify_self]
    cases a.get? i <;> rfl
  · exact kindOf_congr (get?_bind_ne h)

@[simp]
theorem spanOf_bind (i j : Nat) (x : Binding) : (a.bind i x).spanOf j = a.spanOf j := by
  by_cases h : i = j
  · subst h
    simp only [spanOf, bind, get?_modify_self]
    cases a.get? i <;> rfl
  · exact spanOf_congr (get?_bind_ne h)

theorem bindingOf_bind_self {i : Nat} (x : Binding) (h : i < a.size) :
    (a.bind i x).bindingOf i = some x := by
  simp only [bindingOf, bind, get?_modify_self]
  obtain ⟨n, hn⟩ := a.exists_get? h
  simp [hn]

theorem bindingOf_bind {i : Nat} (x : Binding) (h : i < a.size) (j : Nat) :
    (a.bind i x).bindingOf j = if j = i then some x else a.bindingOf j := by
  by_cases hj : j = i
  · subst hj
    rw [if_pos rfl, bindingOf_bind_self x h]
  · rw [if_neg hj, bindingOf_congr (get?_bind_ne (Ne.symm hj))]

theorem classesAbove_bind (i j : Nat) (x : Binding) (h : j ≤ i) :
    (a.bind i x).classesAbove j = a.classesAbove j :=
  classesAbove_congr (fun k _ => parentOf_bind i k x)
    fun k hk => bindingOf_congr (get?_bind_ne (by omega))

theorem get?_setSelector_ne {i j s : Nat} (h : i ≠ j) : (a.setSelector i s).get? j = a.get? j :=
  get?_modify_ne h

@[simp]
theorem size_setSelector (i s : Nat) : (a.setSelector i s).size = a.size := size_modify

@[simp]
theorem parentOf_setSelector (i j s : Nat) : (a.setSelector i s).parentOf j = a.parentOf j :=
  parentOf_modify j

@[simp]
theorem children_setSelector (i q s : Nat) : (a.setSelector i s).children q = a.children q :=
  children_modify q

@[simp]
theorem kindOf_setSelector (i j s : Nat) : (a.setSelector i s).kindOf j = a.kindOf j := by
  by_cases h : i = j
  · subst h
    simp only [kindOf, setSelector, get?_modify_self]
    cases a.get? i <;> rfl
  · exact kindOf_congr (get?_setSelector_ne h)

@[simp]
theorem spanOf_setSelector (i j s : Nat) : (a.setSelector i s).spanOf j = a.spanOf j := by
  by_cases h : i = j
  · subst h
    simp only [spanOf, setSelector, get?_modify_self]
    cases a.get? i <;> rfl
  · exact spanOf_congr (get?_setSelector_ne h)

@[simp]
theorem bindingOf_setSelector (i j s : Nat) : (a.setSelector i s).bindingOf j = a.bindingOf j := by
  by_cases h : i = j
  · subst h
    simp only [bindingOf, setSelector, get?_modify_self]
    cases a.get? i <;> rfl
  · exact bindingOf_congr (get?_setSelector_ne h)

theorem selectorOf_setSelector_self {i s : Nat} (h : a.kindOf i = .qualifiedReference) :
    (a.setSelector i s).selectorOf i = some s := by
  have hi := lt_size_of_kindOf h (by decide)
  obtain ⟨n, hn⟩ := a.exists_get? hi
  have hk : n.kind = .qualifiedReference := by simpa [kindOf, hn] using h
  simp [selectorOf, setSelector, get?_modify_self, hn, hk]

end Arena
end ResultLint
