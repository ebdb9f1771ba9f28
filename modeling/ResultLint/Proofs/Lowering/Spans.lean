import ResultLint.Syntax

/-!
# Byte ranges of syntax trees

The lowering reads the byte ranges of a tree as nested: the children of a node lie inside it,
one after another. `Tree.spaced lo hi ts` says that trees lie in order between the bytes `lo`
and `hi`, `Tree.every p t` that every node of `t` satisfies `p`, and a tree `nests` when the
children of each of its nodes are spaced inside the node.
-/

namespace ResultLint

namespace Tree

variable {κ : Type}

/-- The trees lie one after another from byte `lo` to byte `hi`. -/
def spaced (lo hi : Nat) : List (Tree κ) → Bool
  | [] => decide (lo ≤ hi)
  | t :: ts => decide (lo ≤ t.start) && decide (t.start ≤ t.stop) && spaced t.stop hi ts

/-- Where trees laid out from byte `lo` end: at the end of the last, or at `lo` when there is
none. -/
def reach (lo : Nat) : List (Tree κ) → Nat
  | [] => lo
  | t :: ts => reach t.stop ts

mutual

/-- Every node of the tree satisfies `p`. -/
def every (p : Tree κ → Bool) : Tree κ → Bool
  | .node k f s cs => p (.node k f s cs) && everyAll p cs

/-- Every node of the trees satisfies `p`. -/
def everyAll (p : Tree κ → Bool) : List (Tree κ) → Bool
  | [] => true
  | t :: ts => every p t && everyAll p ts

end

/-- The children of every node lie inside it, one after another. -/
def nests (t : Tree κ) : Bool := every (fun u => spaced u.start u.stop u.children) t

/-! ## Spaced trees -/

section Spaced

variable {lo hi : Nat} {t : Tree κ} {ts : List (Tree κ)}

@[simp] theorem spaced_nil : spaced lo hi ([] : List (Tree κ)) = decide (lo ≤ hi) := rfl

@[simp] theorem spaced_cons : spaced lo hi (t :: ts) =
    (decide (lo ≤ t.start) && decide (t.start ≤ t.stop) && spaced t.stop hi ts) := rfl

theorem le_of_spaced : ∀ {lo : Nat} {ts : List (Tree κ)}, spaced lo hi ts = true → lo ≤ hi
  | _, [], h => by simpa using h
  | _, t :: ts, h => by
    simp only [spaced_cons, Bool.and_eq_true, decide_eq_true_eq] at h
    have := le_of_spaced h.2
    omega

theorem spaced_mono : ∀ {lo lo' hi' : Nat} {ts : List (Tree κ)}, spaced lo hi ts = true →
    lo' ≤ lo → hi ≤ hi' → spaced lo' hi' ts = true
  | _, _, _, [], h, hlo, hhi => by
    simp only [spaced_nil, decide_eq_true_eq] at h ⊢
    omega
  | _, _, _, t :: ts, h, hlo, hhi => by
    simp only [spaced_cons, Bool.and_eq_true, decide_eq_true_eq] at h ⊢
    exact ⟨⟨by omega, h.1.2⟩, spaced_mono h.2 (Nat.le_refl _) hhi⟩

theorem spaced_append : ∀ {lo : Nat} {xs ys : List (Tree κ)},
    spaced lo hi (xs ++ ys) = (spaced lo (reach lo xs) xs && spaced (reach lo xs) hi ys)
  | lo, [], ys => by simp [reach]
  | lo, x :: xs, ys => by
    simp only [List.cons_append, spaced_cons, reach, spaced_append, Bool.and_assoc]

theorem bounds_of_spaced : ∀ {lo : Nat} {ts : List (Tree κ)}, spaced lo hi ts = true →
    ∀ t ∈ ts, lo ≤ t.start ∧ t.start ≤ t.stop ∧ t.stop ≤ hi
  | _, [], _, _, ht => by cases ht
  | _, u :: ts, h, t, ht => by
    simp only [spaced_cons, Bool.and_eq_true, decide_eq_true_eq] at h
    rcases List.mem_cons.mp ht with rfl | ht
    · exact ⟨h.1.1, h.1.2, le_of_spaced h.2⟩
    · have := bounds_of_spaced h.2 t ht
      omega

theorem stop_le_of_spaced {xs ys : List (Tree κ)} (h : spaced lo hi (xs ++ ys) = true) :
    ∀ x ∈ xs, ∀ y ∈ ys, x.stop ≤ y.start := by
  rw [spaced_append, Bool.and_eq_true] at h
  intro x hx y hy
  have := (bounds_of_spaced h.1 x hx).2.2
  have := (bounds_of_spaced h.2 y hy).1
  omega

theorem spaced_filter (p : Tree κ → Bool) : ∀ {lo : Nat} {ts : List (Tree κ)},
    spaced lo hi ts = true → spaced lo hi (ts.filter p) = true
  | _, [], h => h
  | _, t :: ts, h => by
    simp only [spaced_cons, Bool.and_eq_true, decide_eq_true_eq] at h
    rw [List.filter_cons]
    split
    · simp only [spaced_cons, Bool.and_eq_true, decide_eq_true_eq]
      exact ⟨h.1, spaced_filter p h.2⟩
    · exact spaced_mono (spaced_filter p h.2) (by omega) (Nat.le_refl _)

theorem reach_le : ∀ {lo : Nat} {ts : List (Tree κ)}, spaced lo hi ts = true → reach lo ts ≤ hi
  | _, [], h => by simpa [reach] using h
  | _, t :: ts, h => by
    simp only [spaced_cons, Bool.and_eq_true] at h
    show reach t.stop ts ≤ hi
    exact reach_le h.2

theorem spaced_reach : ∀ {lo : Nat} {ts : List (Tree κ)}, spaced lo hi ts = true →
    spaced lo (reach lo ts) ts = true
  | _, [], _ => by simp [reach]
  | _, t :: ts, h => by
    simp only [spaced_cons, reach, Bool.and_eq_true] at h ⊢
    exact ⟨h.1, spaced_reach h.2⟩

/-- The children of a spaced run of trees, each spaced inside its tree, are spaced. -/
theorem spaced_flatMap : ∀ {lo : Nat} {ts : List (Tree κ)}, spaced lo hi ts = true →
    (∀ t ∈ ts, spaced t.start t.stop t.children = true) →
    spaced lo hi (ts.flatMap Tree.children) = true
  | _, [], h, _ => h
  | _, t :: ts, h, hc => by
    simp only [spaced_cons, Bool.and_eq_true, decide_eq_true_eq] at h
    rw [List.flatMap_cons, spaced_append, Bool.and_eq_true]
    have ht := spaced_mono (hc t List.mem_cons_self) h.1.1 (Nat.le_refl _)
    exact ⟨spaced_reach ht, spaced_mono
      (spaced_flatMap h.2 fun u hu => hc u (List.mem_cons_of_mem _ hu)) (reach_le ht) (Nat.le_refl _)⟩

end Spaced

/-! ## Properties of every node -/

section Every

variable {p q : Tree κ → Bool}

theorem everyAll_iff :
    ∀ {ts : List (Tree κ)}, everyAll p ts = true ↔ ∀ t ∈ ts, every p t = true
  | [] => by simp [everyAll]
  | t :: ts => by simp [everyAll, everyAll_iff]

theorem every_here {t : Tree κ} (h : every p t = true) : p t = true := by
  obtain ⟨k, f, s, cs⟩ := t
  rw [every, Bool.and_eq_true] at h
  exact h.1

theorem every_child {t c : Tree κ} (h : every p t = true) (hc : c ∈ t.children) :
    every p c = true := by
  obtain ⟨k, f, s, cs⟩ := t
  rw [every, Bool.and_eq_true] at h
  exact everyAll_iff.mp h.2 c hc

mutual

theorem every_and : ∀ t : Tree κ, every (fun u => p u && q u) t = (every p t && every q t)
  | .node k f s cs => by
    simp only [every, everyAll_and cs]
    cases p (.node k f s cs) <;> cases q (.node k f s cs) <;> simp

theorem everyAll_and : ∀ ts : List (Tree κ),
    everyAll (fun u => p u && q u) ts = (everyAll p ts && everyAll q ts)
  | [] => rfl
  | t :: ts => by
    simp only [everyAll, every_and t, everyAll_and ts]
    cases every p t <;> cases every q t <;> simp

end

mutual

/-- Every node satisfies `q` when `q` follows at each node from `p` there and at every node
below it. -/
theorem every_imp
    (hq : ∀ u, p u = true → (∀ c ∈ u.children, every p c = true) → q u = true) :
    ∀ t : Tree κ, every p t = true → every q t = true
  | .node k f s cs, h => by
    rw [every, Bool.and_eq_true] at h ⊢
    exact ⟨hq _ h.1 fun c hc => everyAll_iff.mp h.2 c hc, everyAll_imp hq cs h.2⟩

theorem everyAll_imp
    (hq : ∀ u, p u = true → (∀ c ∈ u.children, every p c = true) → q u = true) :
    ∀ ts : List (Tree κ), everyAll p ts = true → everyAll q ts = true
  | [], _ => rfl
  | t :: ts, h => by
    rw [everyAll, Bool.and_eq_true] at h ⊢
    exact ⟨every_imp hq t h.1, everyAll_imp hq ts h.2⟩

end

end Every

/-! ## Runs of trees read one after another -/

section Runs

variable {p : Tree κ → Bool} {lo hi : Nat} {t : Tree κ} {ts : List (Tree κ)}

theorem cons_facts (h : spaced lo hi (t :: ts) = true ∧ everyAll p (t :: ts) = true) :
    lo ≤ t.start ∧ every p t = true ∧ t.stop ≤ hi ∧
      (spaced t.stop hi ts = true ∧ everyAll p ts = true) := by
  obtain ⟨hs, he⟩ := h
  simp only [spaced_cons, Bool.and_eq_true, decide_eq_true_eq] at hs
  rw [everyAll, Bool.and_eq_true] at he
  exact ⟨hs.1.1, he.1, le_of_spaced hs.2, hs.2, he.2⟩

theorem kept_facts {f : Tree κ → Bool}
    (h : spaced lo hi ((t :: ts).filter f) = true ∧ everyAll p (t :: ts) = true)
    (hf : f t = true) :
    lo ≤ t.start ∧ every p t = true ∧ t.stop ≤ hi ∧
      (spaced t.stop hi (ts.filter f) = true ∧ everyAll p ts = true) := by
  obtain ⟨hs, he⟩ := h
  rw [List.filter_cons_of_pos hf] at hs
  simp only [spaced_cons, Bool.and_eq_true, decide_eq_true_eq] at hs
  rw [everyAll, Bool.and_eq_true] at he
  exact ⟨hs.1.1, he.1, le_of_spaced hs.2, hs.2, he.2⟩

theorem skipped_facts {f : Tree κ → Bool}
    (h : spaced lo hi ((t :: ts).filter f) = true ∧ everyAll p (t :: ts) = true)
    (hf : ¬f t = true) : spaced lo hi (ts.filter f) = true ∧ everyAll p ts = true := by
  obtain ⟨hs, he⟩ := h
  rw [List.filter_cons_of_neg hf] at hs
  rw [everyAll, Bool.and_eq_true] at he
  exact ⟨hs, he.2⟩

end Runs

end Tree

end ResultLint
