import Mathlib
import ResultLint.Finding

/-!
# The report order

Findings are reported by file, compared component by component, then line, column and issue
code. Path components are totally ordered (a root, then `.`, then `..`, then names as text), so
paths are ordered lexicographically by their components, and two paths neither before the other
have the same components. The report order on findings is then a total preorder
(`Finding.le_trans`, `Finding.le_total`), which is what the stable merge sort needs: sorting
keeps a sublist a sublist (`sublist_mergeSort_of_sublist`).
-/

open List

namespace ResultLint

namespace Path

namespace Component

theorem lt_self (a : Component) : a.lt a = false := by
  cases a with
  | name s => simp [Component.lt]
  | _ => rfl

theorem lt_trans {a b c : Component} (hab : a.lt b = true) (hbc : b.lt c = true) :
    a.lt c = true := by
  cases a <;> cases b <;> cases c <;> simp only [Component.lt, decide_eq_true_eq] at hab hbc ⊢ <;>
    first | rfl | contradiction | exact String.lt_trans hab hbc

theorem trichotomy (a b : Component) : a.lt b = true ∨ a = b ∨ b.lt a = true := by
  cases a <;> cases b <;> simp only [Component.lt, decide_eq_true_eq, name.injEq, reduceCtorEq,
    or_false, or_true, Bool.false_eq_true]
  exact lt_trichotomy (α := String) _ _

end Component

theorem componentsLt_irrefl : ∀ l : List Component, componentsLt l l = false
  | [] => rfl
  | a :: l => by simp [componentsLt, componentsLt_irrefl l]

theorem componentsLt_trans : ∀ {l₁ l₂ l₃ : List Component}, componentsLt l₁ l₂ = true →
    componentsLt l₂ l₃ = true → componentsLt l₁ l₃ = true
  | [], [], _, h, _ => by simp [componentsLt] at h
  | [], _ :: _, [], _, h => by simp [componentsLt] at h
  | [], _ :: _, _ :: _, _, _ => rfl
  | _ :: _, [], _, h, _ => by simp [componentsLt] at h
  | _ :: _, _ :: _, [], _, h => by simp [componentsLt] at h
  | a :: l₁, b :: l₂, c :: l₃, h₁, h₂ => by
    simp only [componentsLt] at h₁ h₂ ⊢
    by_cases hab : a = b <;> by_cases hbc : b = c <;>
      simp only [hab, hbc, if_true, if_false] at h₁ h₂
    · subst hab hbc
      simpa using componentsLt_trans h₁ h₂
    · subst hab
      simpa [hbc] using h₂
    · subst hbc
      simpa [hab] using h₁
    · by_cases hac : a = c
      · subst hac
        exact absurd (Component.lt_trans h₁ h₂) (by simp [Component.lt_self])
      · simpa [hac] using Component.lt_trans h₁ h₂

theorem componentsLt_trichotomy : ∀ l₁ l₂ : List Component,
    componentsLt l₁ l₂ = true ∨ l₁ = l₂ ∨ componentsLt l₂ l₁ = true
  | [], [] => .inr (.inl rfl)
  | [], _ :: _ => .inl rfl
  | _ :: _, [] => .inr (.inr rfl)
  | a :: l₁, b :: l₂ => by
    simp only [componentsLt]
    by_cases hab : a = b
    · subst hab
      rcases componentsLt_trichotomy l₁ l₂ with h | h | h <;> simp [h]
    · have hba : b ≠ a := Ne.symm hab
      rcases Component.trichotomy a b with h | rfl | h <;> simp_all

theorem components_eq_of_not_lt {p q : String} (hpq : lt p q = false) (hqp : lt q p = false) :
    components p = components q := by
  rcases componentsLt_trichotomy (components p) (components q) with h | h | h
  · simp_all [lt]
  · exact h
  · simp_all [lt]

end Path

namespace Finding

theorem le_iff (f g : Finding) : le f g = true ↔
    Path.lt f.location.file g.location.file = true ∨
      Path.components f.location.file = Path.components g.location.file ∧
        (f.location.line < g.location.line ∨ f.location.line = g.location.line ∧
          (f.location.column < g.location.column ∨ f.location.column = g.location.column ∧
            f.issue.code ≤ g.issue.code)) := by
  unfold le
  by_cases hfg : Path.lt f.location.file g.location.file = true
  · simp [hfg]
  · by_cases hgf : Path.lt g.location.file f.location.file = true
    · have hne : Path.components f.location.file ≠ Path.components g.location.file := by
        intro h
        simp [Path.lt, h, Path.componentsLt_irrefl] at hgf
      simp [hfg, hgf, hne]
    · have hsame := Path.components_eq_of_not_lt (by simpa using hfg) (by simpa using hgf)
      simp only [hfg, hgf, hsame, Bool.false_eq_true, if_false, true_and, false_or]
      by_cases hl : f.location.line = g.location.line <;>
        by_cases hc : f.location.column = g.location.column <;> simp [hl, hc]

theorem le_trans {f g h : Finding} (hfg : le f g = true) (hgh : le g h = true) :
    le f h = true := by
  rw [le_iff] at hfg hgh ⊢
  rcases hfg with hfg | ⟨hfg, hfg'⟩ <;> rcases hgh with hgh | ⟨hgh, hgh'⟩
  · exact .inl (Path.componentsLt_trans hfg hgh)
  · left
    simpa [Path.lt, hgh] using hfg
  · left
    simpa [Path.lt, hfg] using hgh
  · refine .inr ⟨hfg.trans hgh, ?_⟩
    rcases hfg' with h₁ | ⟨e₁, h₁ | ⟨e₁', h₁⟩⟩ <;> rcases hgh' with h₂ | ⟨e₂, h₂ | ⟨e₂', h₂⟩⟩ <;>
      first
      | omega
      | exact .inr ⟨by omega, .inr ⟨by omega, String.le_trans h₁ h₂⟩⟩

theorem le_total (f g : Finding) : (le f g || le g f) = true := by
  rw [Bool.or_eq_true, le_iff, le_iff]
  rcases Path.componentsLt_trichotomy (Path.components f.location.file)
    (Path.components g.location.file) with h | h | h
  · exact .inl (.inl h)
  · rcases Nat.lt_trichotomy f.location.line g.location.line with hl | hl | hl
    · exact .inl (.inr ⟨h, .inl hl⟩)
    · rcases Nat.lt_trichotomy f.location.column g.location.column with hc | hc | hc
      · exact .inl (.inr ⟨h, .inr ⟨hl, .inl hc⟩⟩)
      · rcases String.le_total f.issue.code g.issue.code with hk | hk
        · exact .inl (.inr ⟨h, .inr ⟨hl, .inr ⟨hc, hk⟩⟩⟩)
        · exact .inr (.inr ⟨h.symm, .inr ⟨hl.symm, .inr ⟨hc.symm, hk⟩⟩⟩)
      · exact .inr (.inr ⟨h.symm, .inr ⟨hl.symm, .inl hc⟩⟩)
    · exact .inr (.inr ⟨h.symm, .inl hl⟩)
  · exact .inr (.inl h)

end Finding

section Sorting

variable {α : Type} {le : α → α → Bool}

theorem sublist_split {P : α → Prop} {x y u v : List α} (hx : ∀ b ∈ x, P b) (hy : ∀ b ∈ y, ¬ P b)
    (hu : ∀ b ∈ u, P b) (hv : ∀ b ∈ v, ¬ P b) (h : x ++ y <+ u ++ v) : x <+ u ∧ y <+ v := by
  obtain ⟨l₁, l₂, heq, h₁, h₂⟩ := List.sublist_append_iff.1 h
  rcases List.append_eq_append_iff.1 heq with ⟨c, rfl, rfl⟩ | ⟨c, rfl, rfl⟩
  · -- the first part took some of `y`'s elements, which cannot hold the property
    have hc : c = [] := List.eq_nil_iff_forall_not_mem.2 fun b hb =>
      hy b (List.mem_append_left _ hb) (hu b (h₁.subset (List.mem_append_right _ hb)))
    subst hc
    simpa using And.intro h₁ h₂
  · have hc : c = [] := List.eq_nil_iff_forall_not_mem.2 fun b hb =>
      hv b (h₂.subset (List.mem_append_left _ hb)) (hx b (List.mem_append_right _ hb))
    subst hc
    simpa using And.intro h₁ h₂

/-- A stable merge sort by a total preorder keeps a sublist a sublist. -/
theorem sublist_mergeSort_of_sublist (trans : ∀ a b c, le a b → le b c → le a c)
    (total : ∀ a b, (le a b || le b a) = true) :
    ∀ {l₁ l₂ : List α}, l₁ <+ l₂ → l₁.mergeSort le <+ l₂.mergeSort le
  | _, _, .slnil => .refl _
  | _, _, .cons a h => by
    obtain ⟨l₃, l₄, h₁, h₂, -⟩ := List.mergeSort_cons trans total a _
    rw [h₁]
    exact (h₂ ▸ sublist_mergeSort_of_sublist trans total h).trans
      ((List.sublist_cons_self a l₄).append_left l₃)
  | _, _, .cons_cons a h => by
    obtain ⟨m₁, m₂, hm, hm', hm₁⟩ := List.mergeSort_cons trans total a _
    obtain ⟨l₃, l₄, hl, hl', hl₃⟩ := List.mergeSort_cons trans total a _
    have after : ∀ {l x y : List α}, l.mergeSort le = x ++ a :: y → ∀ b ∈ y, le a b = true :=
      fun {l} {x} {y} hs b hb => by
        have hp := List.pairwise_mergeSort trans total l
        rw [hs] at hp
        exact List.rel_of_pairwise_cons (List.pairwise_append.1 hp).2.1 hb
    have ih := sublist_mergeSort_of_sublist trans total h
    rw [hm', hl'] at ih
    obtain ⟨s₁, s₂⟩ := sublist_split (P := fun b => le a b = false)
      (fun b hb => by simpa using hm₁ b hb) (fun b hb => by simp [after hm b hb])
      (fun b hb => by simpa using hl₃ b hb) (fun b hb => by simp [after hl b hb]) ih
    rw [hm, hl]
    exact s₁.append (s₂.cons_cons a)

theorem le_refl_of_total (total : ∀ a b, (le a b || le b a) = true) (a : α) : le a a = true := by
  simpa using total a a

theorem filter_mergeSort (trans : ∀ a b c, le a b → le b c → le a c)
    (total : ∀ a b, (le a b || le b a) = true) (x : α) (l : List α) :
    (l.mergeSort le).filter (fun y => le x y && le y x) = l.filter (fun y => le x y && le y x) := by
  -- the tied elements are sorted among themselves, so the sort keeps them as a sublist
  have hsorted : (l.filter fun y => le x y && le y x).Pairwise fun a b => le a b := by
    refine pairwise_of_forall_mem_list fun a ha b hb => ?_
    simp only [mem_filter, Bool.and_eq_true] at ha hb
    exact trans a x b ha.2.2 hb.2.1
  have hsub := (sublist_mergeSort trans total hsorted filter_sublist).filter
    (fun y => le x y && le y x)
  rw [filter_filter, filter_congr fun y _ => Bool.and_self _] at hsub
  exact (hsub.eq_of_length ((mergeSort_perm l le).filter _).length_eq.symm).symm

theorem mem_of_filter_cons_eq (total : ∀ a b, (le a b || le b a) = true) {a b : α}
    {l₁ l₂ : List α} (h : (a :: l₁).filter (fun y => le a y && le y a) =
      (b :: l₂).filter (fun y => le a y && le y a))
    (hab : ¬ (le a b && le b a) = true) : a ∈ l₂ := by
  simp only [filter_cons, le_refl_of_total total a, Bool.and_self, if_true, hab] at h
  exact (mem_filter.1 (h ▸ mem_cons_self)).1

theorem eq_of_pairwise_of_filter (total : ∀ a b, (le a b || le b a) = true) :
    ∀ {l₁ l₂ : List α}, l₁.Pairwise (fun a b => le a b) → l₂.Pairwise (fun a b => le a b) →
      (∀ x, l₁.filter (fun y => le x y && le y x) = l₂.filter (fun y => le x y && le y x)) →
      l₁ = l₂
  | [], [], _, _, _ => rfl
  | [], b :: _, _, _, h => by simpa [le_refl_of_total total b] using h b
  | a :: _, [], _, _, h => by simpa [le_refl_of_total total a] using h a
  | a :: l₁, b :: l₂, h₁, h₂, h => by
    rw [pairwise_cons] at h₁ h₂
    -- the heads agree: otherwise each list would put the other's head after its own
    have hab : a = b := by
      by_cases htied : (le a b && le b a) = true
      · have := h a
        simp only [filter_cons, le_refl_of_total total a, htied, Bool.and_self, if_true,
          cons.injEq] at this
        exact this.1
      · have ha := mem_of_filter_cons_eq total (h a) htied
        have hb := mem_of_filter_cons_eq total (h b).symm (by rwa [Bool.and_comm])
        simp [h₁.1 b hb, h₂.1 a ha] at htied
    subst hab
    refine congrArg (a :: ·) (eq_of_pairwise_of_filter total h₁.2 h₂.2 fun x => ?_)
    have := h x
    simp only [filter_cons] at this
    split at this
    · exact cons_injective this
    · exact this

/-- Lists whose elements tied with each element come in the same order sort to the same list. -/
theorem mergeSort_eq_of_filter (trans : ∀ a b c, le a b → le b c → le a c)
    (total : ∀ a b, (le a b || le b a) = true) {l l' : List α}
    (h : ∀ x, l.filter (fun y => le x y && le y x) = l'.filter (fun y => le x y && le y x)) :
    l.mergeSort le = l'.mergeSort le :=
  eq_of_pairwise_of_filter total (pairwise_mergeSort trans total l)
    (pairwise_mergeSort trans total l') fun x => by
      rw [filter_mergeSort trans total, filter_mergeSort trans total, h]

theorem mergeSort_append_mergeSort (trans : ∀ a b c, le a b → le b c → le a c)
    (total : ∀ a b, (le a b || le b a) = true) (l₁ l₂ : List α) :
    (l₁.mergeSort le ++ l₂.mergeSort le).mergeSort le = (l₁ ++ l₂).mergeSort le :=
  mergeSort_eq_of_filter trans total fun x => by
    rw [filter_append, filter_append, filter_mergeSort trans total, filter_mergeSort trans total]

theorem Finding.sort_sublist {fs gs : List Finding} (h : fs <+ gs) :
    Finding.sort fs <+ Finding.sort gs := by
  unfold Finding.sort
  exact @sublist_mergeSort_of_sublist Finding Finding.le (fun _ _ _ => Finding.le_trans)
    Finding.le_total fs gs h

theorem Finding.sort_eq_of_filter {fs gs : List Finding}
    (h : ∀ x, fs.filter (fun y => x.le y && y.le x) = gs.filter (fun y => x.le y && y.le x)) :
    Finding.sort fs = Finding.sort gs := by
  unfold Finding.sort
  exact @mergeSort_eq_of_filter Finding Finding.le (fun _ _ _ => Finding.le_trans)
    Finding.le_total fs gs h

/-- Sorting the findings of two sorted reports together is sorting all of them at once. -/
theorem Finding.sort_append_sort (fs gs : List Finding) :
    Finding.sort (Finding.sort fs ++ Finding.sort gs) = Finding.sort (fs ++ gs) := by
  unfold Finding.sort
  exact @mergeSort_append_mergeSort Finding Finding.le (fun _ _ _ => Finding.le_trans)
    Finding.le_total fs gs

end Sorting

end ResultLint
