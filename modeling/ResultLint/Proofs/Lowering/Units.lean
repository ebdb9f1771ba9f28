import Mathlib.Logic.ExistsUnique
import ResultLint.Proofs.Lowering.Rules

/-!
# What lowering a file promises of its unit

A file is lowered from a fresh builder, one that holds no node and no declaration yet. From there
a sound lowering leaves a unit whose tables agree with its arena (`SourceUnit.TablesAgree`), whose
chains all end on a selector, whose ranges nest and whose call sites are in source order as far as
the syntax read allows (`Sound.fresh`). A file's root is one node over the rest of the lowering,
so the arena hangs from node 0 (`Sound.rooted`); together these make `Arena.WellFormed`.
-/

namespace ResultLint

namespace Arena

theorem mem_children {a : Arena} {p i : Nat} : i ∈ a.children p ↔ a.parentOf i = some p := by
  unfold children
  simp only [List.mem_filter, List.mem_range, beq_iff_eq]
  exact ⟨fun h => h.2, fun h => ⟨lt_size_of_parentOf h, h⟩⟩

theorem children_sorted (a : Arena) (p : Nat) : (a.children p).Pairwise (· < ·) :=
  List.pairwise_lt_range.filter _

/-- Node 0 is the root of the arena, and every other node has a parent. -/
def Rooted (a : Arena) : Prop :=
  0 < a.size ∧ a.parentOf 0 = none ∧ ∀ i, 0 < i → i < a.size → ∃ p, a.parentOf i = some p

/-- What lowering promises of the arena of a file: node 0 is the root and the only node without
a parent, a parent comes before its children, the children of a node are the nodes under it in
order, and every chain ends on a selector of a kind `sel` allows, as its last child. -/
structure WellFormed (sel : NodeKind → Prop) (a : Arena) : Prop where
  rooted : a.Rooted
  parent_lt : ∀ i p, a.parentOf i = some p → p < i
  children : ∀ p i, i ∈ a.children p ↔ a.parentOf i = some p
  children_sorted : ∀ p, (a.children p).Pairwise (· < ·)
  chains : ∀ q, a.kindOf q = .qualifiedReference →
    ∃ s, a.selectorOf q = some s ∧ a.isLastChild q s = true ∧ sel (a.kindOf s)

theorem WellFormed.of_rooted {sel : NodeKind → Prop} {a : Arena} (hr : a.Rooted)
    (hc : ∀ q, a.kindOf q = .qualifiedReference →
      ∃ s, a.selectorOf q = some s ∧ a.isLastChild q s = true ∧ sel (a.kindOf s)) :
    a.WellFormed sel :=
  ⟨hr, fun _ _ h => parentOf_lt h, fun _ _ => mem_children, Arena.children_sorted a, hc⟩

end Arena

namespace SourceUnit

end SourceUnit

namespace UnitBuilder

/-- A builder that holds no node and no declaration yet. -/
structure Fresh (b : UnitBuilder) : Prop where
  tree : b.tree.size = 0
  classes : b.classes = #[]
  methods : b.methods = #[]
  calls : b.calls = #[]

namespace Fresh

variable {b : UnitBuilder}

theorem tables (h : b.Fresh) : b.Tables where
  bound _ _ hx := absurd (Arena.lt_size_of_bindingOf hx) (by rw [h.tree]; omega)
  unique _ _ _ hx _ := absurd (Arena.lt_size_of_bindingOf hx) (by rw [h.tree]; omega)
  classes _ hc := by rw [h.classes] at hc; exact absurd hc (Nat.not_lt_zero _)
  methods _ hm := by rw [h.methods] at hm; exact absurd hm (Nat.not_lt_zero _)
  calls _ _ hs := by rw [h.calls] at hs; cases hs
  typeDeclaration _ hi := absurd (Arena.lt_size_of_kindOf hi (by decide)) (by rw [h.tree]; omega)
  call _ hi := absurd (Arena.lt_size_of_kindOf hi (by decide)) (by rw [h.tree]; omega)
  sorted := by rw [h.calls]; exact List.Pairwise.nil

theorem ready (_ : b.Fresh) : b.Ready none none :=
  ⟨fun _ hp => (by cases hp), rfl, fun _ hc => (by cases hc)⟩

theorem nested (h : b.Fresh) : b.tree.Nested where
  wf _ hi := absurd hi (by rw [h.tree]; omega)
  within _ _ hp := absurd (Arena.lt_size_of_parentOf hp) (by rw [h.tree]; omega)
  ordered p := by
    have : b.tree.children p = [] := by
      rw [Arena.children, h.tree, List.range_zero, List.filter_nil]
    rw [this]
    exact List.Pairwise.nil

theorem located (h : b.Fresh) (lo : Nat) : b.Located lo := by
  rw [Located, h.calls]
  exact ⟨List.Pairwise.nil, fun _ hc => by cases hc⟩

theorem addFileAnnotations (h : b.Fresh) (as : List Annotation) :
    ((Build.addFileAnnotations as).run b).2.Fresh :=
  ⟨h.tree, h.classes, h.methods, h.calls⟩

end Fresh

end UnitBuilder

namespace Sound

variable {sel : NodeKind → Prop} {m : Build Unit} {lo hi : Nat} {S N : Prop} {b : UnitBuilder}

/-- A sound lowering run from a fresh builder leaves tables that agree, every chain ending on a
selector, nested ranges for syntax that satisfies `S`, and call sites in order for syntax that
also satisfies `N`. -/
theorem fresh (h : Sound sel m none none lo hi S N) (hb : b.Fresh) :
    (m.run b).2.Tables ∧
    (∀ q, (m.run b).2.tree.kindOf q = .qualifiedReference →
      ∃ s, (m.run b).2.tree.selectorOf q = some s ∧ (m.run b).2.tree.isLastChild q s = true ∧
        sel ((m.run b).2.tree.kindOf s)) ∧
    (S → (m.run b).2.tree.Nested) ∧ (S → N → (m.run b).2.Located hi) := by
  obtain ⟨ht, -, hc, hn, hl⟩ := h b hb.ready hb.tables
  refine ⟨ht, fun q hq => hc q (by rw [hb.tree]; omega) hq, fun hS => ?_,
    fun hS hN => hl hS hN (hb.located lo)⟩
  exact (hn hS hb.nested (fun _ hp => by cases hp) fun _ hp => by cases hp).1

/-- A lowering that opens one node without a parent and lowers everything else under it leaves
that node as the root of the arena. -/
theorem rooted {k : NodeKind} {s : Span} {body : Nat → Build Unit}
    (hk : k ≠ .typeDeclaration ∧ k ≠ .call)
    (hbody : ∀ n, Sound sel (body n) (some n) none s.start s.stop S N) (hb : b.Fresh) :
    ((Build.push k none s >>= body).run b).2.tree.Rooted := by
  rw [Build.run_bind, Build.run_push]
  have ho : Opened none none k s s.start s.start False True b
      { b with tree := (b.tree.push k none s).1 } :=
    Opened.plain hb.tables hb.ready (Arena.Appended.push fun _ hp => by cases hp)
      (fun _ hi => Arena.get?_push_lt _ _ _ hi) (Arena.bindingOf_push_size _ _) hk.1 hk.2
      False.elim
  obtain ⟨-, hext, -, -, -⟩ := hbody b.tree.size _ ho.ready ho.tables
  have hsize : (b.tree.push k none s).1.size = 1 := by
    rw [ho.appended.size, hb.tree]
  have hroot : (b.tree.push k none s).1.parentOf b.tree.size = none :=
    Arena.parentOf_push_size k s fun _ hp => by cases hp
  rw [hb.tree] at hroot
  have hle : (b.tree.push k none s).1.size ≤ _ := hext.size_le
  rw [hsize] at hle
  refine ⟨hle, ?_, fun i hi hlt => ?_⟩
  · rw [hext.parentOf_old (show 0 < (b.tree.push k none s).1.size by rw [hsize]; omega)]
    exact hroot
  · rcases hext.parent i (show (b.tree.push k none s).1.size ≤ i by rw [hsize]; omega) hlt
      with hp | ⟨q, hp, -⟩
    · exact ⟨b.tree.size, hp⟩
    · exact ⟨q, hp⟩

end Sound

end ResultLint
