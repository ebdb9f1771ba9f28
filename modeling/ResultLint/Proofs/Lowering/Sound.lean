import ResultLint.Proofs.Arena.Growth

/-!
# Lowering steps that keep a unit sound

While a file is lowered, the unit being built must stay sound in three ways, each stated here as
an invariant of the unit:

* its tables and the bindings of its arena agree (`UnitBuilder.Tables`): every class, method and
  call site of the tables is bound at exactly one node, of the right kind, a class or method
  records the class around its node, and the call sites are listed in arena order;
* the byte ranges of its nodes nest (`Arena.Nested`): a node lies inside its parent, and the
  children of a node come one after the other;
* its call sites are listed in source order (`UnitBuilder.Located`).

A lowering step is `Sound` when, run under a parent node `P` inside the class `cls`, it keeps the
tables, only appends to the unit (`Extends`), closes every chain it opens (`Chains`), keeps the
ranges nested while it reads syntax from byte `lo` to byte `hi`, and keeps the call sites in
order. The last two need facts of the syntax read, `S` and `N`. The rules below build sound
steps from sound steps, one rule for each way the lowerings are written.
-/

namespace ResultLint

namespace Arena

/-- The byte ranges of an arena nest: every range is well formed, every node lies inside its
parent, and the children of a node come in order without overlapping. -/
structure Nested (a : Arena) : Prop where
  wf : ∀ i < a.size, (a.spanOf i).start ≤ (a.spanOf i).stop
  within : ∀ i p, a.parentOf i = some p →
    (a.spanOf p).start ≤ (a.spanOf i).start ∧ (a.spanOf i).stop ≤ (a.spanOf p).stop
  ordered : ∀ p, (a.children p).Pairwise fun i j => (a.spanOf i).stop ≤ (a.spanOf j).start

/-- A new child of `P` may start at byte `lo`: `P` starts there or before, and all its children
end there or before. -/
def Open (a : Arena) (P : Option Nat) (lo : Nat) : Prop :=
  ∀ p ∈ P, (a.spanOf p).start ≤ lo ∧ ∀ i, a.parentOf i = some p → (a.spanOf i).stop ≤ lo

/-- `P` ends at byte `hi` or after. -/
def Fits (a : Arena) (P : Option Nat) (hi : Nat) : Prop :=
  ∀ p ∈ P, hi ≤ (a.spanOf p).stop

end Arena

namespace UnitBuilder

/-- What a binding stands for in the unit being built: a class declared at a type declaration,
whose parent is the class around it and was declared before it; a method or constructor declared
at a node of its kind, owned by the class around it; a call site at a call node. -/
def BindsAt (b : UnitBuilder) (i : Nat) : Binding → Prop
  | .type c => ∃ d, b.classes[c]? = some d ∧ b.tree.kindOf i = .typeDeclaration ∧
      d.parent = (b.tree.classesAbove i).head? ∧ ∀ p ∈ d.parent, p < c
  | .method m => ∃ d, b.methods[m]? = some d ∧ b.tree.kindOf i = .callable d.isConstructor ∧
      d.owner = (b.tree.classesAbove i).head?
  | .call k => ∃ s, b.calls[k]? = some s ∧ s.node = i ∧ b.tree.kindOf i = .call

/-- The tables of the unit being built and the bindings of its arena agree. -/
structure Tables (b : UnitBuilder) : Prop where
  bound : ∀ i x, b.tree.bindingOf i = some x → b.BindsAt i x
  unique : ∀ i j x, b.tree.bindingOf i = some x → b.tree.bindingOf j = some x → i = j
  classes : ∀ c < b.classes.size, ∃ i, b.tree.bindingOf i = some (.type c)
  methods : ∀ m < b.methods.size, ∃ i, b.tree.bindingOf i = some (.method m)
  calls : ∀ k s, b.calls[k]? = some s → b.tree.bindingOf s.node = some (.call k)
  typeDeclaration : ∀ i, b.tree.kindOf i = .typeDeclaration → ∃ c, b.tree.bindingOf i = some (.type c)
  call : ∀ i, b.tree.kindOf i = .call → ∃ k, b.tree.bindingOf i = some (.call k)
  sorted : (b.calls.toList.map CallSite.node).Pairwise (· < ·)

/-- The call sites recorded so far are in source order, and all start before byte `lo`. -/
def Located (b : UnitBuilder) (lo : Nat) : Prop :=
  (b.calls.toList.map fun c => c.location.startByte).Pairwise (· < ·) ∧
    ∀ c ∈ b.calls.toList, c.location.startByte < lo

/-- A step may run under `P` inside the class `cls`: `P` is a node, `cls` is the class at `P`,
and that class is in the table. -/
structure Ready (b : UnitBuilder) (P cls : Option Nat) : Prop where
  parent_lt : ∀ p ∈ P, p < b.tree.size
  classAt_eq : P.bind b.tree.classAt = cls
  class_lt : ∀ c ∈ cls, c < b.classes.size

end UnitBuilder

/-- What a step run under `P` may do to the unit: the nodes already there keep everything, every
node it makes hangs under `P` or under a node it made, and the tables keep their entries. -/
structure Extends (P : Option Nat) (b b' : UnitBuilder) : Prop where
  size_le : b.tree.size ≤ b'.tree.size
  old : ∀ i < b.tree.size, b'.tree.get? i = b.tree.get? i
  parent : ∀ i, b.tree.size ≤ i → i < b'.tree.size →
    b'.tree.parentOf i = P ∨ ∃ q, b'.tree.parentOf i = some q ∧ b.tree.size ≤ q
  classes : ∀ (c : Nat) (d : ClassDecl), b.classes[c]? = some d → b'.classes[c]? = some d
  methods : ∀ (m : Nat) (d : MethodDecl), b.methods[m]? = some d → b'.methods[m]? = some d
  calls : ∀ (k : Nat) (s : CallSite), b.calls[k]? = some s → b'.calls[k]? = some s

/-- Every chain a step makes has a selector, which is its last child and of a kind `sel` allows. -/
def Chains (sel : NodeKind → Prop) (b b' : UnitBuilder) : Prop :=
  ∀ q, b.tree.size ≤ q → b'.tree.kindOf q = .qualifiedReference →
    ∃ s, b'.tree.selectorOf q = some s ∧ b'.tree.isLastChild q s = true ∧ sel (b'.tree.kindOf s)

/-- A lowering step run under `P` inside the class `cls` over the bytes from `lo` to `hi` is sound
when, from a unit whose tables agree, it leaves one whose tables agree, extends the unit, closes
its chains, keeps the ranges nested when the syntax read satisfies `S`, and keeps the call sites
in source order when it satisfies `S` and `N`. -/
def Sound (sel : NodeKind → Prop) (m : Build Unit) (P cls : Option Nat) (lo hi : Nat)
    (S N : Prop) : Prop :=
  ∀ b : UnitBuilder, b.Ready P cls → b.Tables →
    (m.run b).2.Tables ∧ Extends P b (m.run b).2 ∧ Chains sel b (m.run b).2 ∧
    (S → b.tree.Nested → b.tree.Open P lo → b.tree.Fits P hi →
      (m.run b).2.tree.Nested ∧ (m.run b).2.tree.Open P hi) ∧
    (S → N → b.Located lo → (m.run b).2.Located hi)

/-! ## The primitive steps -/

namespace Build

theorem run_get (b : UnitBuilder) : (get : Build UnitBuilder).run b = (b, b) := rfl

theorem run_push (k : NodeKind) (P : Option Nat) (s : Span) (b : UnitBuilder) :
    (push k P s).run b = (b.tree.size, { b with tree := (b.tree.push k P s).1 }) := rfl

theorem run_setSelector (q c : Nat) (b : UnitBuilder) :
    (setSelector q c).run b = ((), { b with tree := b.tree.setSelector q c }) := rfl

theorem run_addClass (n : Nat) (d : ClassDecl) (b : UnitBuilder) :
    (addClass n d).run b = (b.classes.size,
      { b with classes := b.classes.push d, tree := b.tree.bind n (.type b.classes.size) }) := rfl

theorem run_addMethod (n : Nat) (d : MethodDecl) (b : UnitBuilder) :
    (addMethod n d).run b = (b.methods.size,
      { b with methods := b.methods.push d, tree := b.tree.bind n (.method b.methods.size) }) := rfl

theorem run_addCall (n : Nat) (name : String) (arity : Nat) (r : Receiver) (rt : Option String)
    (at_ : Span) (b : UnitBuilder) :
    (addCall n name arity r rt at_).run b = ((),
      { b with
        calls := b.calls.push ⟨n, name, arity, r, rt, b.location at_⟩,
        tree := b.tree.bind n (.call b.calls.size) }) := rfl

end Build

namespace Arena

/-- `a'` is `a` with one node of kind `k` appended under `P` over the bytes `s`, as far as kinds,
parents, ranges and the bindings of the old nodes go; selectors may differ. -/
structure Appended (a a' : Arena) (k : NodeKind) (P : Option Nat) (s : Span) : Prop where
  size : a'.size = a.size + 1
  kind : ∀ i, a'.kindOf i = if i = a.size then k else a.kindOf i
  parent : ∀ i, a'.parentOf i = if i = a.size then P else a.parentOf i
  span : ∀ i, a'.spanOf i = if i = a.size then s else a.spanOf i
  binding : ∀ i < a.size, a'.bindingOf i = a.bindingOf i

namespace Appended

variable {a a' : Arena} {k : NodeKind} {P : Option Nat} {s : Span}

theorem push (hP : ∀ p ∈ P, p < a.size) : Appended a (a.push k P s).1 k P s :=
  ⟨size_push a k P s, kindOf_push k s, parentOf_push k s hP, spanOf_push k s,
    fun i _ => bindingOf_push k s i⟩

theorem setSelector (h : Appended a a' k P s) (q c : Nat) :
    Appended a (a'.setSelector q c) k P s :=
  ⟨(size_setSelector q c).trans h.size, fun i => (kindOf_setSelector q i c).trans (h.kind i),
    fun i => (parentOf_setSelector q i c).trans (h.parent i),
    fun i => (spanOf_setSelector q i c).trans (h.span i),
    fun i hi => (bindingOf_setSelector q i c).trans (h.binding i hi)⟩

theorem setSelector_both (h : Appended a a' k P s) (q c : Nat) :
    Appended (a.setSelector q c) (a'.setSelector q c) k P s := by
  have hsize : (a.setSelector q c).size = a.size := size_setSelector q c
  refine ⟨?_, fun i => ?_, fun i => ?_, fun i => ?_, fun i hi => ?_⟩
  · rw [size_setSelector, hsize, h.size]
  · rw [kindOf_setSelector, kindOf_setSelector, hsize, h.kind]
  · rw [parentOf_setSelector, parentOf_setSelector, hsize, h.parent]
  · rw [spanOf_setSelector, spanOf_setSelector, hsize, h.span]
  · rw [hsize] at hi
    rw [bindingOf_setSelector, bindingOf_setSelector, h.binding i hi]

theorem bind (h : Appended a a' k P s) (x : Binding) : Appended a (a'.bind a.size x) k P s :=
  ⟨(size_bind _ x).trans h.size, fun i => (kindOf_bind _ i x).trans (h.kind i),
    fun i => (parentOf_bind _ i x).trans (h.parent i),
    fun i => (spanOf_bind _ i x).trans (h.span i),
    fun i hi => by
      rw [bindingOf_bind x (by rw [h.size]; omega), if_neg (Nat.ne_of_lt hi)]
      exact h.binding i hi⟩

theorem parentOf_old (h : Appended a a' k P s) {i : Nat} (hi : i < a.size) :
    a'.parentOf i = a.parentOf i := by
  rw [h.parent, if_neg (Nat.ne_of_lt hi)]

theorem kindOf_old (h : Appended a a' k P s) {i : Nat} (hi : i < a.size) :
    a'.kindOf i = a.kindOf i := by
  rw [h.kind, if_neg (Nat.ne_of_lt hi)]

theorem spanOf_old (h : Appended a a' k P s) {i : Nat} (hi : i < a.size) :
    a'.spanOf i = a.spanOf i := by
  rw [h.span, if_neg (Nat.ne_of_lt hi)]

theorem classesAbove_old (h : Appended a a' k P s) {i : Nat} (hi : i < a.size) :
    a'.classesAbove i = a.classesAbove i :=
  classesAbove_congr (fun _ hj => h.parentOf_old (Nat.lt_of_le_of_lt hj hi))
    fun j hj => h.binding j (Nat.lt_trans hj hi)

theorem classAt_old (h : Appended a a' k P s) {i : Nat} (hi : i < a.size) :
    a'.classAt i = a.classAt i :=
  classAt_congr (fun _ hj => h.parentOf_old (Nat.lt_of_le_of_lt hj hi))
    fun j hj => h.binding j (Nat.lt_of_le_of_lt hj hi)

theorem bindingOf_ne (h : Appended a a' k P s) {i : Nat} (hi : i ≠ a.size) :
    a'.bindingOf i = a.bindingOf i := by
  rcases Nat.lt_or_gt_of_ne hi with hi | hi
  · exact h.binding i hi
  · have h1 : a'.size ≤ i := by rw [h.size]; omega
    simp only [bindingOf, get?_eq_none h1, get?_eq_none (Nat.le_of_lt hi), Option.bind_none]

theorem bindingOf_eq (h : Appended a a' k P s) (hn : a'.bindingOf a.size = none) (i : Nat) :
    a'.bindingOf i = a.bindingOf i := by
  by_cases hi : i = a.size
  · subst hi
    rw [hn]
    simp only [bindingOf, get?_eq_none (Nat.le_refl _), Option.bind_none]
  · exact h.bindingOf_ne hi

theorem head?_classesAbove (h : Appended a a' k P s) (hP : ∀ p ∈ P, p < a.size) :
    (a'.classesAbove a.size).head? = P.bind a.classAt := by
  have hpar : a'.parentOf a.size = P := by rw [h.parent, if_pos rfl]
  cases P with
  | none => rw [classesAbove_of_root hpar]; rfl
  | some p => rw [Arena.head?_classesAbove hpar, h.classAt_old (hP p rfl)]; rfl

theorem children (h : Appended a a' k P s) (q : Nat) :
    a'.children q = a.children q ++ if P = some q then [a.size] else [] := by
  simp only [Arena.children, h.size, List.range_succ, List.filter_append]
  congr 1
  · apply List.filter_congr
    intro i hi
    rw [h.parentOf_old (List.mem_range.mp hi)]
  · simp only [List.filter_cons, List.filter_nil, h.parent]
    by_cases hq : P = some q <;> simp [hq]

end Appended

/-! ## Nested ranges -/

theorem Open.mono {a : Arena} {P : Option Nat} {lo lo' : Nat} (h : a.Open P lo) (hle : lo ≤ lo') :
    a.Open P lo' := fun p hp =>
  ⟨Nat.le_trans (h p hp).1 hle, fun i hi => Nat.le_trans ((h p hp).2 i hi) hle⟩

theorem Fits.mono {a : Arena} {P : Option Nat} {hi hi' : Nat} (h : a.Fits P hi) (hle : hi' ≤ hi) :
    a.Fits P hi' := fun p hp => Nat.le_trans hle (h p hp)

/-- Appending a node over `s` under `P`, where `P` is open at `lo ≤ s.start` and ends after
`s`, keeps the ranges nested, and the new node is open from its start. -/
theorem Nested.append {a a' : Arena} {k : NodeKind} {P : Option Nat} {s : Span} {lo : Nat}
    (h : a.Nested) (ha : Appended a a' k P s) (hopen : a.Open P lo) (hfits : a.Fits P s.stop)
    (hlo : lo ≤ s.start) (hs : s.start ≤ s.stop) :
    a'.Nested ∧ a'.Open (some a.size) s.start := by
  refine ⟨⟨fun i hi => ?_, fun i p hp => ?_, fun q => ?_⟩, fun p hp => ?_⟩
  · rw [ha.span]
    split
    · exact hs
    · exact h.wf i (by rw [ha.size] at hi; omega)
  · rw [ha.parent] at hp
    split at hp
    · next hi =>
      subst hi
      have hpa : p < a.size := parentOf_lt (a := a') (by rw [ha.parent, if_pos rfl]; exact hp)
      rw [ha.span, ha.span, if_pos rfl, if_neg (Nat.ne_of_lt hpa)]
      exact ⟨Nat.le_trans (hopen p hp).1 hlo, hfits p hp⟩
    · next hi =>
      have hia : i < a.size := lt_size_of_parentOf hp
      rw [ha.spanOf_old hia, ha.spanOf_old (Nat.lt_trans (parentOf_lt hp) hia)]
      exact h.within i p hp
  · rw [ha.children, List.pairwise_append]
    have hold : ∀ i ∈ a.children q, a'.spanOf i = a.spanOf i := fun i hi =>
      ha.spanOf_old (List.mem_range.mp (List.mem_filter.mp hi).1)
    refine ⟨?_, ?_, ?_⟩
    · refine List.Pairwise.imp_of_mem ?_ (h.ordered q)
      intro i j hi hj hij
      rw [hold i hi, hold j hj]
      exact hij
    · split <;> simp
    · intro i hi j hj
      split at hj
      · next hq =>
        simp only [List.mem_singleton] at hj
        subst hj
        have hpi : a.parentOf i = some q := by simpa using (List.mem_filter.mp hi).2
        rw [hold i hi, ha.span, if_pos rfl]
        exact Nat.le_trans ((hopen q hq).2 i hpi) hlo
      · cases hj
  · cases hp
    refine ⟨Nat.le_of_eq (by rw [ha.span, if_pos rfl]), fun i hi => ?_⟩
    have := lt_size_of_parentOf hi
    have := parentOf_lt hi
    rw [ha.size] at *
    omega

end Arena

namespace UnitBuilder

theorem Located.mono {b : UnitBuilder} {lo lo' : Nat} (h : b.Located lo) (hle : lo ≤ lo') :
    b.Located lo' :=
  ⟨h.1, fun c hc => Nat.lt_of_lt_of_le (h.2 c hc) hle⟩

/-- Recording a call site that starts at `x`, after every site so far, keeps the sites in order;
they then all start before any byte past `x`. -/
theorem Located.push {b : UnitBuilder} {c : CallSite} {y : Nat} (h : b.Located c.location.startByte)
    (hy : c.location.startByte < y) : ({ b with calls := b.calls.push c } : UnitBuilder).Located y := by
  refine ⟨?_, fun c' hc' => ?_⟩
  · simp only [Array.toList_push, List.map_append, List.map_cons, List.map_nil, List.pairwise_append,
      List.pairwise_singleton, List.mem_singleton, List.mem_map, true_and]
    refine ⟨h.1, ?_⟩
    rintro _ ⟨c', hc', rfl⟩ _ rfl
    exact h.2 c' hc'
  · simp only [Array.toList_push, List.mem_append, List.mem_singleton] at hc'
    rcases hc' with hc' | rfl
    · exact Nat.lt_trans (h.2 c' hc') hy
    · exact hy

theorem BindsAt.mono {b b' : UnitBuilder} {i : Nat} {x : Binding} (h : b.BindsAt i x)
    (hk : b'.tree.kindOf i = b.tree.kindOf i) (hc : b'.tree.classesAbove i = b.tree.classesAbove i)
    (hcl : ∀ (c : Nat) (d : ClassDecl), b.classes[c]? = some d → b'.classes[c]? = some d)
    (hm : ∀ (m : Nat) (d : MethodDecl), b.methods[m]? = some d → b'.methods[m]? = some d)
    (hca : ∀ (k : Nat) (s : CallSite), b.calls[k]? = some s → b'.calls[k]? = some s) :
    b'.BindsAt i x := by
  cases x with
  | type c =>
    obtain ⟨d, hd, hkind, hpar, hlt⟩ := h
    exact ⟨d, hcl c d hd, hk.trans hkind, hc ▸ hpar, hlt⟩
  | method m =>
    obtain ⟨d, hd, hkind, hown⟩ := h
    exact ⟨d, hm m d hd, hk.trans hkind, hc ▸ hown⟩
  | call k =>
    obtain ⟨s, hs, hnode, hkind⟩ := h
    exact ⟨s, hca k s hs, hnode, hk.trans hkind⟩

theorem BindsAt.lt {b : UnitBuilder} {i : Nat} {x : Binding} (h : b.BindsAt i x) :
    match x with
    | .type c => c < b.classes.size
    | .method m => m < b.methods.size
    | .call k => k < b.calls.size := by
  cases x with
  | type _ | method _ => obtain ⟨d, hd, -⟩ := h; exact (Array.getElem?_eq_some_iff.mp hd).1
  | call k => obtain ⟨s, hs, -⟩ := h; exact (Array.getElem?_eq_some_iff.mp hs).1

theorem getElem?_push_of_getElem? {α : Type} {xs : Array α} {y : α} {i : Nat} {x : α}
    (h : xs[i]? = some x) : (xs.push y)[i]? = some x := by
  rw [Array.getElem?_push, if_neg (Nat.ne_of_lt (Array.getElem?_eq_some_iff.mp h).1)]
  exact h

end UnitBuilder

namespace UnitBuilder

section Tables

variable {b : UnitBuilder} {a' : Arena} {k : NodeKind} {P : Option Nat} {s : Span}

theorem Tables.append (h : b.Tables) (ha : b.tree.Appended a' k P s)
    (hn : a'.bindingOf b.tree.size = none) (hk : k ≠ .typeDeclaration) (hc : k ≠ .call) :
    ({ b with tree := a' } : UnitBuilder).Tables := by
  have hbind := ha.bindingOf_eq hn
  constructor
  · intro i x hx
    dsimp only at hx ⊢
    rw [hbind] at hx
    have hi := Arena.lt_size_of_bindingOf hx
    exact (h.bound i x hx).mono (ha.kindOf_old hi) (ha.classesAbove_old hi)
      (fun _ _ h => h) (fun _ _ h => h) (fun _ _ h => h)
  · intro i j x hi hj
    dsimp only at hi hj
    rw [hbind] at hi hj
    exact h.unique i j x hi hj
  · intro c hc
    obtain ⟨i, hi⟩ := h.classes c hc
    exact ⟨i, (hbind i).trans hi⟩
  · intro m hm
    obtain ⟨i, hi⟩ := h.methods m hm
    exact ⟨i, (hbind i).trans hi⟩
  · intro c s' hs'
    exact (hbind _).trans (h.calls c s' hs')
  · intro i hi
    dsimp only at hi
    rw [ha.kind] at hi
    split at hi
    · exact absurd hi hk
    · obtain ⟨c, hc⟩ := h.typeDeclaration i hi
      exact ⟨c, (hbind i).trans hc⟩
  · intro i hi
    dsimp only at hi
    rw [ha.kind] at hi
    split at hi
    · exact absurd hi hc
    · obtain ⟨c, hc⟩ := h.call i hi
      exact ⟨c, (hbind i).trans hc⟩
  · exact h.sorted

/-- Binding the node just appended to an entry just added to its table keeps the tables, when
the binding stands for what it should, the tables gain that entry only, and a type declaration
or a call is bound as one. -/
theorem Tables.bindNew (h : b.Tables) (ha : b.tree.Appended a' k P s) {x : Binding}
    {b' : UnitBuilder} (htree : b'.tree = a'.bind b.tree.size x) (hx : b'.BindsAt b.tree.size x)
    (hcl : ∀ (c : Nat) (d : ClassDecl), b.classes[c]? = some d → b'.classes[c]? = some d)
    (hm : ∀ (m : Nat) (d : MethodDecl), b.methods[m]? = some d → b'.methods[m]? = some d)
    (hca : ∀ (c : Nat) (s' : CallSite), b.calls[c]? = some s' → b'.calls[c]? = some s')
    (hclasses : ∀ c < b'.classes.size, c < b.classes.size ∨ x = .type c)
    (hmethods : ∀ m < b'.methods.size, m < b.methods.size ∨ x = .method m)
    (hcalls : ∀ c s', b'.calls[c]? = some s' → b.calls[c]? = some s' ∨ x = .call c)
    (hnew : ∀ j, ¬ b.BindsAt j x) (hkt : k = .typeDeclaration → ∃ c, x = .type c)
    (hkc : k = .call → ∃ c, x = .call c)
    (hsorted : (b'.calls.toList.map CallSite.node).Pairwise (· < ·)) : b'.Tables := by
  have hlt : b.tree.size < a'.size := by rw [ha.size]; omega
  have hbind : ∀ i, b'.tree.bindingOf i = if i = b.tree.size then some x else b.tree.bindingOf i := by
    intro i
    rw [htree, Arena.bindingOf_bind x hlt]
    split
    · rfl
    · next hi => exact ha.bindingOf_ne hi
  have hkind : ∀ i, b'.tree.kindOf i = a'.kindOf i := by
    intro i
    rw [htree, Arena.kindOf_bind]
  have hold : ∀ {i y}, b.tree.bindingOf i = some y → b'.tree.bindingOf i = some y := by
    intro i y hy
    rw [hbind, if_neg (Nat.ne_of_lt (Arena.lt_size_of_bindingOf hy))]
    exact hy
  -- a table whose entries were bound stays bound when its one new entry is the new node's
  have htable : ∀ {n n' : Nat} {form : Nat → Binding}, (∀ c < n', c < n ∨ x = form c) →
      (∀ c < n, ∃ i, b.tree.bindingOf i = some (form c)) →
      ∀ c < n', ∃ i, b'.tree.bindingOf i = some (form c) := by
    intro n n' form hn hb c hc
    rcases hn c hc with hc | rfl
    · obtain ⟨i, hi⟩ := hb c hc
      exact ⟨i, hold hi⟩
    · exact ⟨b.tree.size, by rw [hbind, if_pos rfl]⟩
  have hkinds : ∀ {kk : NodeKind} {form : Nat → Binding}, (k = kk → ∃ c, x = form c) →
      (∀ i, b.tree.kindOf i = kk → ∃ c, b.tree.bindingOf i = some (form c)) →
      ∀ i, b'.tree.kindOf i = kk → ∃ c, b'.tree.bindingOf i = some (form c) := by
    intro kk form hk hb i hi
    rw [hkind, ha.kind] at hi
    split at hi
    · next hi' =>
      obtain ⟨c, rfl⟩ := hk hi
      exact ⟨c, by rw [hbind, if_pos hi']⟩
    · obtain ⟨c, hc⟩ := hb i hi
      exact ⟨c, hold hc⟩
  constructor
  · intro i y hy
    rw [hbind] at hy
    split at hy
    · next hi =>
      subst hi
      cases hy
      exact hx
    · have hi := Arena.lt_size_of_bindingOf hy
      refine (h.bound i y hy).mono ?_ ?_ hcl hm hca
      · rw [hkind, ha.kindOf_old hi]
      · rw [htree, Arena.classesAbove_bind _ _ _ (Nat.le_of_lt hi), ha.classesAbove_old hi]
  · intro i j y hi hj
    rw [hbind] at hi hj
    split at hi <;> split at hj
    · next h1 h2 => rw [h1, h2]
    · next h1 _ => cases hi; exact absurd (h.bound j _ hj) (hnew j)
    · next _ h2 => cases hj; exact absurd (h.bound i _ hi) (hnew i)
    · exact h.unique i j y hi hj
  · exact htable hclasses h.classes
  · exact htable hmethods h.methods
  · intro c s' hs'
    rcases hcalls c s' hs' with hs'' | rfl
    · exact hold (h.calls c s' hs'')
    · obtain ⟨s'', hs'', hnode, -⟩ := hx
      rw [hs'] at hs''
      cases hs''
      rw [hnode, hbind, if_pos rfl]
  · exact hkinds hkt h.typeDeclaration
  · exact hkinds hkc h.call
  · exact hsorted

theorem Tables.declareClass (h : b.Tables) {cls : Option Nat} (hr : b.Ready P cls)
    (ha : b.tree.Appended a' .typeDeclaration P s) {d : ClassDecl} (hd : d.parent = cls) :
    ({ b with classes := b.classes.push d,
               tree := a'.bind b.tree.size (.type b.classes.size) } : UnitBuilder).Tables := by
  have hlt : b.tree.size < a'.size := by rw [ha.size]; omega
  refine h.bindNew ha rfl ⟨d, Array.getElem?_push_size, ?_, ?_, ?_⟩
    (fun _ _ h => getElem?_push_of_getElem? h) (fun _ _ h => h) (fun _ _ h => h) ?_
    (fun m hm => .inl hm) (fun _ _ h => .inl h) ?_ (fun _ => ⟨_, rfl⟩) (fun h => by cases h)
    h.sorted
  · rw [Arena.kindOf_bind, ha.kind, if_pos rfl]
  · rw [Arena.classesAbove_bind _ _ _ (Nat.le_refl _), ha.head?_classesAbove hr.parent_lt,
      hr.classAt_eq, hd]
  · intro p hp
    rw [hd] at hp
    exact hr.class_lt p hp
  · intro c hc
    simp only [Array.size_push] at hc
    rcases Nat.lt_succ_iff_lt_or_eq.mp hc with hc | rfl
    · exact .inl hc
    · exact .inr rfl
  · intro j hj
    have := hj.lt
    simp at this

theorem Tables.declareMethod (h : b.Tables) {cls : Option Nat} (hr : b.Ready P cls)
    {d : MethodDecl} (ha : b.tree.Appended a' (.callable d.isConstructor) P s) (hd : d.owner = cls) :
    ({ b with methods := b.methods.push d,
               tree := a'.bind b.tree.size (.method b.methods.size) } : UnitBuilder).Tables := by
  refine h.bindNew ha rfl ⟨d, Array.getElem?_push_size, ?_, ?_⟩
    (fun _ _ h => h) (fun _ _ h => getElem?_push_of_getElem? h) (fun _ _ h => h)
    (fun c hc => .inl hc) ?_ (fun _ _ h => .inl h) ?_ (fun h => by cases h) (fun h => by cases h)
    h.sorted
  · rw [Arena.kindOf_bind, ha.kind, if_pos rfl]
  · rw [Arena.classesAbove_bind _ _ _ (Nat.le_refl _), ha.head?_classesAbove hr.parent_lt,
      hr.classAt_eq, hd]
  · intro m hm
    simp only [Array.size_push] at hm
    rcases Nat.lt_succ_iff_lt_or_eq.mp hm with hm | rfl
    · exact .inl hm
    · exact .inr rfl
  · intro j hj
    have := hj.lt
    simp at this

theorem Tables.recordCall (h : b.Tables) (ha : b.tree.Appended a' .call P s) {c : CallSite}
    (hc : c.node = b.tree.size) :
    ({ b with calls := b.calls.push c,
               tree := a'.bind b.tree.size (.call b.calls.size) } : UnitBuilder).Tables := by
  refine h.bindNew ha rfl ⟨c, Array.getElem?_push_size, hc, ?_⟩
    (fun _ _ h => h) (fun _ _ h => h) (fun _ _ h => getElem?_push_of_getElem? h)
    (fun c hc => .inl hc) (fun m hm => .inl hm) ?_ ?_ (fun h => by cases h) (fun _ => ⟨_, rfl⟩) ?_
  · rw [Arena.kindOf_bind, ha.kind, if_pos rfl]
  · intro k' s' hs'
    rw [Array.getElem?_push] at hs'
    split at hs'
    · next hk => exact .inr (by rw [hk])
    · exact .inl hs'
  · intro j hj
    have := hj.lt
    simp at this
  · simp only [Array.toList_push, List.map_append, List.map_cons, List.map_nil,
      List.pairwise_append, List.pairwise_singleton, List.mem_singleton, List.mem_map, true_and]
    refine ⟨h.sorted, ?_⟩
    rintro _ ⟨c', hc', rfl⟩ _ rfl
    obtain ⟨kk, hkk⟩ := List.mem_iff_getElem?.mp hc'
    rw [Array.getElem?_toList] at hkk
    rw [hc]
    exact Arena.lt_size_of_bindingOf (h.calls kk c' hkk)

end Tables

end UnitBuilder

/-! ## What a step leaves alone -/

namespace Arena

variable {a a' : Arena}

theorem lt_size_of_isLastChild {q s : Nat} (h : a.isLastChild q s = true) : s < a.size := by
  unfold isLastChild at h
  have hs : (a.children q).getLast? = some s := by simpa using h
  exact List.mem_range.mp (List.mem_filter.mp (List.mem_of_getLast? hs)).1

theorem Nested.congr (h : a.Nested) (hsize : a'.size = a.size)
    (hp : ∀ i, a'.parentOf i = a.parentOf i) (hs : ∀ i, a'.spanOf i = a.spanOf i) : a'.Nested := by
  have hc : ∀ q, a'.children q = a.children q := fun q => by simp only [children, hsize, hp]
  refine ⟨fun i hi => ?_, fun i p hip => ?_, fun q => ?_⟩
  · rw [hs]; exact h.wf i (hsize ▸ hi)
  · rw [hs, hs]; exact h.within i p (hp i ▸ hip)
  · rw [hc]
    exact (h.ordered q).imp fun hij => by rw [hs, hs]; exact hij

theorem Open.congr {P : Option Nat} {lo : Nat} (h : a.Open P lo)
    (hp : ∀ i, a'.parentOf i = a.parentOf i) (hs : ∀ i, a'.spanOf i = a.spanOf i) : a'.Open P lo :=
  fun p hP => ⟨hs p ▸ (h p hP).1, fun i hi => by rw [hs]; exact (h p hP).2 i (hp i ▸ hi)⟩

end Arena

namespace UnitBuilder

theorem Tables.congr {b b' : UnitBuilder} (h : b.Tables) (hk : ∀ i, b'.tree.kindOf i = b.tree.kindOf i)
    (hp : ∀ i, b'.tree.parentOf i = b.tree.parentOf i)
    (hb : ∀ i, b'.tree.bindingOf i = b.tree.bindingOf i) (hcl : b'.classes = b.classes)
    (hm : b'.methods = b.methods) (hca : b'.calls = b.calls) : b'.Tables := by
  have hab : ∀ i, b'.tree.classesAbove i = b.tree.classesAbove i := fun i =>
    Arena.classesAbove_congr (fun j _ => hp j) fun j _ => hb j
  refine ⟨fun i x hx => ?_, fun i j x hi hj => ?_, fun c hc => ?_, fun m hm' => ?_,
    fun c s hs => ?_, fun i hi => ?_, fun i hi => ?_, ?_⟩
  · rw [hb] at hx
    exact (h.bound i x hx).mono (hk i) (hab i) (fun _ _ h => hcl ▸ h) (fun _ _ h => hm ▸ h)
      fun _ _ h => hca ▸ h
  · rw [hb] at hi hj
    exact h.unique i j x hi hj
  · obtain ⟨i, hi⟩ := h.classes c (hcl ▸ hc)
    exact ⟨i, (hb i).trans hi⟩
  · obtain ⟨i, hi⟩ := h.methods m (hm ▸ hm')
    exact ⟨i, (hb i).trans hi⟩
  · rw [hb]; exact h.calls c s (hca ▸ hs)
  · obtain ⟨c, hc⟩ := h.typeDeclaration i ((hk i).symm.trans hi)
    exact ⟨c, (hb i).trans hc⟩
  · obtain ⟨c, hc⟩ := h.call i ((hk i).symm.trans hi)
    exact ⟨c, (hb i).trans hc⟩
  · rw [hca]; exact h.sorted

theorem Tables.setSelector {b : UnitBuilder} (h : b.Tables) (q c : Nat) :
    ({ b with tree := b.tree.setSelector q c } : UnitBuilder).Tables :=
  h.congr (fun i => Arena.kindOf_setSelector q i c) (fun i => Arena.parentOf_setSelector q i c)
    (fun i => Arena.bindingOf_setSelector q i c) rfl rfl rfl

theorem Ready.setSelector {b : UnitBuilder} {P cls : Option Nat} (h : b.Ready P cls) (q c : Nat) :
    ({ b with tree := b.tree.setSelector q c } : UnitBuilder).Ready P cls where
  parent_lt p hp := by
    show p < (b.tree.setSelector q c).size
    rw [Arena.size_setSelector]
    exact h.parent_lt p hp
  classAt_eq := by
    rw [← h.classAt_eq]
    cases P with
    | none => rfl
    | some p =>
      exact Arena.classAt_congr (fun j _ => Arena.parentOf_setSelector q j c)
        fun j _ => Arena.bindingOf_setSelector q j c
  class_lt := h.class_lt

end UnitBuilder

namespace Extends

variable {P Q : Option Nat} {b b₁ b₂ : UnitBuilder}

theorem refl (P : Option Nat) (b : UnitBuilder) : Extends P b b :=
  ⟨Nat.le_refl _, fun _ _ => rfl, fun _ h h' => absurd h' (Nat.not_lt.mpr h),
    fun _ _ h => h, fun _ _ h => h, fun _ _ h => h⟩

theorem trans_of (h₁ : Extends P b b₁) (h₂ : Extends Q b₁ b₂)
    (hQ : Q = P ∨ ∃ q, Q = some q ∧ b.tree.size ≤ q) : Extends P b b₂ where
  size_le := Nat.le_trans h₁.size_le h₂.size_le
  old i hi := (h₂.old i (Nat.lt_of_lt_of_le hi h₁.size_le)).trans (h₁.old i hi)
  parent i hi hi' := by
    by_cases h : i < b₁.tree.size
    · rw [Arena.parentOf_congr (h₂.old i h)]
      exact h₁.parent i hi h
    · rcases h₂.parent i (Nat.le_of_not_lt h) hi' with hp | ⟨q, hq, hq'⟩
      · rcases hQ with rfl | ⟨q, rfl, hq⟩
        · exact .inl hp
        · exact .inr ⟨q, hp, hq⟩
      · exact .inr ⟨q, hq, Nat.le_trans h₁.size_le hq'⟩
  classes c d h := h₂.classes c d (h₁.classes c d h)
  methods m d h := h₂.methods m d (h₁.methods m d h)
  calls k s h := h₂.calls k s (h₁.calls k s h)

theorem kindOf_old (h : Extends P b b₁) {i : Nat} (hi : i < b.tree.size) :
    b₁.tree.kindOf i = b.tree.kindOf i := Arena.kindOf_congr (h.old i hi)

theorem parentOf_old (h : Extends P b b₁) {i : Nat} (hi : i < b.tree.size) :
    b₁.tree.parentOf i = b.tree.parentOf i := Arena.parentOf_congr (h.old i hi)

theorem spanOf_old (h : Extends P b b₁) {i : Nat} (hi : i < b.tree.size) :
    b₁.tree.spanOf i = b.tree.spanOf i := Arena.spanOf_congr (h.old i hi)

theorem selectorOf_old (h : Extends P b b₁) {i : Nat} (hi : i < b.tree.size) :
    b₁.tree.selectorOf i = b.tree.selectorOf i := Arena.selectorOf_congr (h.old i hi)

theorem classAt_old (h : Extends P b b₁) {i : Nat} (hi : i < b.tree.size) :
    b₁.tree.classAt i = b.tree.classAt i :=
  Arena.classAt_of_agree fun j hj => h.old j (Nat.lt_of_le_of_lt hj hi)

theorem le_parent (h : Extends P b b₁) {x : Nat} (hP : ∀ p ∈ P, x ≤ p) (hx : x ≤ b.tree.size)
    {i p : Nat} (hi : b.tree.size ≤ i) (hp : b₁.tree.parentOf i = some p) : x ≤ p := by
  rcases h.parent i hi (Arena.lt_size_of_parentOf hp) with h' | ⟨q, hq, hq'⟩
  · rw [hp] at h'
    exact hP p h'.symm
  · rw [hp] at hq
    cases hq
    omega

theorem hangs (h : Extends Q b b₁) {x lo : Nat} (hQ : ∀ q ∈ Q, x ≤ q) (hx : x ≤ b.tree.size)
    (hb : ∀ i, lo ≤ i → ∀ p, b.tree.parentOf i = some p → x ≤ p) :
    ∀ i, lo ≤ i → ∀ p, b₁.tree.parentOf i = some p → x ≤ p := by
  intro i hi p hp
  by_cases hi' : i < b.tree.size
  · rw [h.parentOf_old hi'] at hp
    exact hb i hi p hp
  · exact h.le_parent hQ hx (Nat.le_of_not_lt hi') hp

theorem ready {cls : Option Nat} (h : Extends Q b b₁) (hr : b.Ready P cls) : b₁.Ready P cls where
  parent_lt p hp := Nat.lt_of_lt_of_le (hr.parent_lt p hp) h.size_le
  classAt_eq := by
    rw [← hr.classAt_eq]
    cases P with
    | none => rfl
    | some p => exact h.classAt_old (hr.parent_lt p rfl)
  class_lt c hc := by
    have hlt := hr.class_lt c hc
    have hd : b.classes[c]? = some b.classes[c] := Array.getElem?_eq_getElem hlt
    exact (Array.getElem?_eq_some_iff.mp (h.classes c _ hd)).1

theorem fits (h : Extends Q b b₁) (hP : ∀ p ∈ P, p < b.tree.size) {hi : Nat}
    (hf : b.tree.Fits P hi) : b₁.tree.Fits P hi := fun p hp => by
  rw [h.spanOf_old (hP p hp)]
  exact hf p hp

theorem open_of (h : Extends Q b b₁) (hP : ∀ p ∈ P, p < b.tree.size) {lo hi : Nat}
    (ho : b.tree.Open P lo) (hle : lo ≤ hi)
    (hnew : ∀ p ∈ P, ∀ i, b.tree.size ≤ i → b₁.tree.parentOf i = some p →
      (b₁.tree.spanOf i).stop ≤ hi) : b₁.tree.Open P hi := by
  intro p hp
  refine ⟨?_, fun i hip => ?_⟩
  · rw [h.spanOf_old (hP p hp)]
    exact Nat.le_trans (ho p hp).1 hle
  · by_cases hi' : i < b.tree.size
    · rw [h.parentOf_old hi'] at hip
      rw [h.spanOf_old hi']
      exact Nat.le_trans ((ho p hp).2 i hip) hle
    · exact hnew p hp i (Nat.le_of_not_lt hi') hip

theorem open_one (h : Extends Q b b₁) (hP : ∀ p ∈ P, p < b.tree.size) {lo hi : Nat}
    (ho : b.tree.Open P lo) (hle : lo ≤ hi) (hone : (b₁.tree.spanOf b.tree.size).stop ≤ hi)
    (hrest : ∀ i, b.tree.size < i → ∀ p, b₁.tree.parentOf i = some p → b.tree.size ≤ p) :
    b₁.tree.Open P hi :=
  h.open_of hP ho hle fun p hp i hi hip => by
    rcases Nat.eq_or_lt_of_le hi with rfl | hi'
    · exact hone
    · exact absurd (hrest i hi' p hip) (Nat.not_le.mpr (hP p hp))

theorem children_old (h : Extends P b b₁) {q : Nat} (hq : q < b.tree.size) (hP : P ≠ some q) :
    b₁.tree.children q = b.tree.children q := by
  obtain ⟨d, hd⟩ := Nat.exists_eq_add_of_le h.size_le
  unfold Arena.children
  rw [hd, List.range_add, List.filter_append]
  have hnew : (List.map (fun x => b.tree.size + x) (List.range d)).filter
      (fun i => b₁.tree.parentOf i == some q) = [] := by
    rw [List.filter_eq_nil_iff]
    intro i hi
    obtain ⟨j, hj, rfl⟩ := List.mem_map.mp hi
    have hlt : b.tree.size + j < b₁.tree.size := by
      have := List.mem_range.mp hj
      omega
    rcases h.parent _ (Nat.le_add_right _ _) hlt with hp | ⟨q', hp, hq'⟩
    · rw [hp]
      simpa using hP
    · rw [hp]
      simp only [beq_iff_eq, Option.some.injEq]
      omega
  rw [hnew, List.append_nil]
  apply List.filter_congr
  intro i hi
  rw [h.parentOf_old (List.mem_range.mp hi)]

theorem setSelector (h : Extends P b b₁) {q : Nat} (hq : b.tree.size ≤ q) (c : Nat) :
    Extends P b { b₁ with tree := b₁.tree.setSelector q c } where
  size_le := by
    show b.tree.size ≤ (b₁.tree.setSelector q c).size
    rw [Arena.size_setSelector]
    exact h.size_le
  old i hi := (Arena.get?_setSelector_ne (by omega)).trans (h.old i hi)
  parent i hi hi' := by
    rw [show ({ b₁ with tree := b₁.tree.setSelector q c } : UnitBuilder).tree.size = b₁.tree.size
      from Arena.size_setSelector q c] at hi'
    rw [show ({ b₁ with tree := b₁.tree.setSelector q c } : UnitBuilder).tree.parentOf i =
      b₁.tree.parentOf i from Arena.parentOf_setSelector q i c]
    exact h.parent i hi hi'
  classes := h.classes
  methods := h.methods
  calls := h.calls

end Extends

namespace Chains

variable {sel : NodeKind → Prop} {Q : Option Nat} {b b₁ b₂ : UnitBuilder}

theorem refl (sel : NodeKind → Prop) (b : UnitBuilder) : Chains sel b b := fun _ hq hk =>
  absurd (Arena.lt_size_of_kindOf hk (by decide)) (Nat.not_lt.mpr hq)

theorem trans (c₁ : Chains sel b b₁) (c₂ : Chains sel b₁ b₂) (h : Extends Q b₁ b₂)
    (hQ : ∀ p ∈ Q, p < b.tree.size ∨ b₁.tree.kindOf p ≠ .qualifiedReference) : Chains sel b b₂ := by
  intro q hq hk
  by_cases hq₁ : q < b₁.tree.size
  · rw [h.kindOf_old hq₁] at hk
    obtain ⟨s, hs, hlast, hsel⟩ := c₁ q hq hk
    have hQq : Q ≠ some q := by
      rintro rfl
      rcases hQ q rfl with h' | h'
      · omega
      · exact h' hk
    refine ⟨s, ?_, ?_, ?_⟩
    · rw [h.selectorOf_old hq₁]
      exact hs
    · unfold Arena.isLastChild
      rw [h.children_old hq₁ hQq]
      exact hlast
    · rw [h.kindOf_old (Arena.lt_size_of_isLastChild hlast)]
      exact hsel
  · exact c₂ q (Nat.le_of_not_lt hq₁) hk

theorem setSelector (h : Chains sel b b₁) {q : Nat} (hq : q < b.tree.size) (c : Nat) :
    Chains sel b { b₁ with tree := b₁.tree.setSelector q c } := by
  intro q' hq' hk
  have hne : q ≠ q' := by omega
  have hk' : b₁.tree.kindOf q' = .qualifiedReference :=
    (Arena.kindOf_setSelector q q' c).symm.trans hk
  obtain ⟨s, hs, hlast, hsel⟩ := h q' hq' hk'
  refine ⟨s, ?_, ?_, ?_⟩
  · exact (Arena.selectorOf_congr (Arena.get?_setSelector_ne hne)).trans hs
  · unfold Arena.isLastChild at hlast ⊢
    rw [show ({ b₁ with tree := b₁.tree.setSelector q c } : UnitBuilder).tree.children q' =
      b₁.tree.children q' from Arena.children_setSelector q q' c]
    exact hlast
  · show sel ((b₁.tree.setSelector q c).kindOf s)
    rw [Arena.kindOf_setSelector]
    exact hsel

end Chains

end ResultLint
