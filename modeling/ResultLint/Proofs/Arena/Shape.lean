import ResultLint.Proofs.Arena.Walk

/-!
# Arenas grown from shapes

Lowering a syntax tree appends nodes to an arena, each under a node made before it. A shape is
that growth seen as trees: a node with its kind, a tag naming what it stands for, and the nodes
made under it, in order. Laid out in creation order (`entriesAll`), a forest of shapes is the list
of kinds, parents and selectors the arena holds; a chain's selector is its last child.

Over a shape the usage walk can be run from the top (`judgeAll`): a node's verdict follows from a
small frame describing its parent, whether it is its parent's last child and whether it is its
parent's selector. When an arena is laid out from a forest, this top-down verdict is the walk's
own verdict at every node (`isValueDiscarded_eq_judge`), so what the walk says of lowered code
can be read off the shapes of the syntax, with no arena index in sight.
-/

namespace ResultLint

/-- The nodes a piece of syntax leaves in an arena: a node's kind, a tag saying what it stands for,
and the nodes made under it, in creation order. -/
inductive Shape (α : Type) where
  | node (kind : NodeKind) (tag : α) (children : List (Shape α))

namespace Shape

variable {α : Type}

mutual

/-- The number of nodes of a shape. -/
def size : Shape α → Nat
  | node _ _ cs => sizeAll cs + 1

/-- The number of nodes of a forest. -/
def sizeAll : List (Shape α) → Nat
  | [] => 0
  | s :: ss => size s + sizeAll ss

end

mutual

/-- The tags of a shape's nodes, in creation order. -/
def tags : Shape α → List α
  | node _ t cs => t :: tagsAll cs

/-- The tags of a forest's nodes, in creation order. -/
def tagsAll : List (Shape α) → List α
  | [] => []
  | s :: ss => tags s ++ tagsAll ss

end

theorem tagsAll_append (F G : List (Shape α)) : tagsAll (F ++ G) = tagsAll F ++ tagsAll G := by
  induction F with
  | nil => rfl
  | cons s ss ih => simp [tagsAll, ih]

/-- What the walks read of a node: its kind, its parent and its selector. -/
abbrev Entry := NodeKind × Option Nat × Option Nat

/-- A chain's selector is its last child, made after all the others. -/
def selectorAt (k : NodeKind) (base : Nat) (cs : List (Shape α)) : Option Nat :=
  if k = .qualifiedReference ∧ cs ≠ [] then some (base + 1 + sizeAll cs.dropLast) else none

mutual

/-- The entries of a shape laid out from index `base`, its top node under `parent`. -/
def entries (base : Nat) (parent : Option Nat) : Shape α → List Entry
  | node k _ cs => (k, parent, selectorAt k base cs) :: entriesAll (base + 1) (some base) cs

/-- The entries of a forest laid out from index `base`, its top nodes under `parent`. -/
def entriesAll (base : Nat) (parent : Option Nat) : List (Shape α) → List Entry
  | [] => []
  | s :: ss => entries base parent s ++ entriesAll (base + size s) parent ss

end

/-- The indexes of the call nodes of a layout that starts at index `base`, in order. -/
def callPositions (base : Nat) : List Entry → List Nat
  | [] => []
  | e :: es => (if e.1 = .call then [base] else []) ++ callPositions (base + 1) es

theorem call_of_mem_callPositions : ∀ {E : List Entry} {base n : Nat}, n ∈ callPositions base E →
    base ≤ n ∧ (E.map (·.1))[n - base]? = some .call
  | [], _, _, h => absurd h List.not_mem_nil
  | e :: es, base, n, h => by
    rw [callPositions, List.mem_append] at h
    rcases h with h | h
    · by_cases he : e.1 = .call
      · simp only [he, if_true, List.mem_singleton] at h
        subst h
        simp [he]
      · simp [he] at h
    · obtain ⟨hle, hn⟩ := call_of_mem_callPositions h
      refine ⟨by omega, ?_⟩
      rw [show n - base = n - (base + 1) + 1 by omega, List.map_cons, List.getElem?_cons_succ]
      exact hn

theorem callPositions_append (base : Nat) (E E' : List Entry) :
    callPositions base (E ++ E') = callPositions base E ++ callPositions (base + E.length) E' := by
  induction E generalizing base with
  | nil => simp [callPositions]
  | cons e es ih => simp [callPositions, ih, Nat.add_assoc, Nat.add_comm 1]

/-- What the top-down walk knows of a node's parent: its kind, whether a value standing there is
discarded, and the same two facts of the parent's own parent. -/
structure Frame where
  kind : NodeKind
  discarded : Bool
  owner : Option (NodeKind × Bool)

/-- The verdict on a node from its parent's frame, its kind, and whether it is the parent's last
child and the parent's selector. This is the walk's `placeVerdict` read from a frame. -/
def Frame.verdict : Option Frame → NodeKind → Bool → Bool → Bool
  | none, _, _, _ => true
  | some f, k, last, selector =>
    if !k.isExpression || selector then f.discarded
    else
      match f.kind with
      | .block =>
        match f.owner with
        | none => true
        | some (o, d) =>
          if o = .lambda then false
          else if !last then true
          else
            match o with
            | .callable _ | .classInitializer => true
            | _ => d
      | .callable true => true
      | _ => false

mutual

/-- The kinds of a shape's nodes with their verdicts, top down. -/
def judge (f : Option Frame) (last selector : Bool) : Shape α → List (NodeKind × α × Bool)
  | node k t cs =>
    let d := Frame.verdict f k last selector
    (k, t, d) :: judgeAll (some ⟨k, d, f.map fun g => (g.kind, g.discarded)⟩)
      (k == .qualifiedReference) false cs

/-- The kinds of a forest's nodes under one parent with their verdicts; `chain` says the parent is a chain
and `more` that other children of the parent follow the forest. -/
def judgeAll (f : Option Frame) (chain more : Bool) : List (Shape α) → List (NodeKind × α × Bool)
  | [] => []
  | s :: ss =>
    let last := !more && ss.isEmpty
    judge f last (chain && last) s ++ judgeAll f chain more ss

end

/-! ## Laying a forest out -/

theorem size_pos (s : Shape α) : 0 < size s := by
  cases s with
  | node k t cs => simp [size]

theorem sizeAll_cons_dropLast (s : Shape α) {ss : List (Shape α)} (h : ss ≠ []) :
    sizeAll (s :: ss).dropLast = size s + sizeAll ss.dropLast := by
  rw [List.dropLast_cons_of_ne_nil h, sizeAll]

mutual

@[simp]
theorem length_entries : ∀ (s : Shape α) (base : Nat) (parent : Option Nat),
    (entries base parent s).length = size s
  | node k t cs, base, parent => by
    simp only [entries, size, List.length_cons, length_entriesAll]

@[simp]
theorem length_entriesAll : ∀ (F : List (Shape α)) (base : Nat) (parent : Option Nat),
    (entriesAll base parent F).length = sizeAll F
  | [], _, _ => rfl
  | s :: ss, base, parent => by
    simp only [entriesAll, sizeAll, List.length_append, length_entries, length_entriesAll]

end

mutual

theorem parent_entries : ∀ (s : Shape α) (base : Nat) (parent : Option Nat) (j : Nat) (e : Entry),
    (entries base parent s)[j]? = some e →
      e.2.1 = parent ∨ ∃ q, e.2.1 = some q ∧ base ≤ q ∧ q < base + j
  | node k t cs, base, parent, j, e, h => by
    cases j with
    | zero =>
      simp only [entries, List.getElem?_cons_zero, Option.some.injEq] at h
      exact .inl (h ▸ rfl)
    | succ j =>
      simp only [entries, List.getElem?_cons_succ] at h
      rcases parent_entriesAll cs (base + 1) (some base) j e h with h1 | ⟨q, h1, h2, h3⟩
      · exact .inr ⟨base, h1, Nat.le_refl _, by omega⟩
      · exact .inr ⟨q, h1, by omega, by omega⟩

theorem parent_entriesAll : ∀ (F : List (Shape α)) (base : Nat) (parent : Option Nat) (j : Nat)
    (e : Entry), (entriesAll base parent F)[j]? = some e →
      e.2.1 = parent ∨ ∃ q, e.2.1 = some q ∧ base ≤ q ∧ q < base + j
  | [], _, _, _, _, h => by simp [entriesAll] at h
  | s :: ss, base, parent, j, e, h => by
    simp only [entriesAll] at h
    rw [List.getElem?_append] at h
    split at h
    · exact parent_entries s base parent j e h
    · rw [length_entries] at h
      rcases parent_entriesAll ss (base + size s) parent (j - size s) e h with h1 | ⟨q, h1, h2, h3⟩
      · exact .inl h1
      · rename_i hj
        rw [length_entries] at hj
        exact .inr ⟨q, h1, by omega, by omega⟩

end

mutual

@[simp]
theorem length_judge : ∀ (s : Shape α) (f : Option Frame) (last selector : Bool),
    (judge f last selector s).length = size s
  | node k t cs, f, last, selector => by
    simp only [judge, size, List.length_cons, length_judgeAll]

@[simp]
theorem length_judgeAll : ∀ (F : List (Shape α)) (f : Option Frame) (chain more : Bool),
    (judgeAll f chain more F).length = sizeAll F
  | [], _, _, _ => rfl
  | s :: ss, f, chain, more => by
    simp only [judgeAll, sizeAll, List.length_append, length_judge, length_judgeAll]

end

mutual

theorem kinds_judge : ∀ (s : Shape α) (f : Option Frame) (last selector : Bool) (base : Nat)
    (parent : Option Nat), (judge f last selector s).map Prod.fst = (entries base parent s).map (·.1)
  | node k t cs, f, last, selector, base, parent => by
    simp only [judge, entries, List.map_cons, kinds_judgeAll cs _ _ false (base + 1) (some base)]

theorem kinds_judgeAll : ∀ (F : List (Shape α)) (f : Option Frame) (chain more : Bool) (base : Nat)
    (parent : Option Nat),
    (judgeAll f chain more F).map Prod.fst = (entriesAll base parent F).map (·.1)
  | [], _, _, _, _, _ => rfl
  | s :: ss, f, chain, more, base, parent => by
    simp only [judgeAll, entriesAll, List.map_append, kinds_judge s f _ _ base parent,
      kinds_judgeAll ss f chain more (base + size s) parent]

end

mutual

theorem tags_judge : ∀ (s : Shape α) (f : Option Frame) (last selector : Bool),
    (judge f last selector s).map (·.2.1) = tags s
  | node k t cs, f, last, selector => by
    simp only [judge, tags, List.map_cons, tags_judgeAll cs _ _ false]

theorem tags_judgeAll : ∀ (F : List (Shape α)) (f : Option Frame) (chain more : Bool),
    (judgeAll f chain more F).map (·.2.1) = tagsAll F
  | [], _, _, _ => rfl
  | s :: ss, f, chain, more => by
    simp only [judgeAll, tagsAll, List.map_append, tags_judge s f, tags_judgeAll ss f chain more]

end

theorem tag_mem_of_mem_judgeAll {F : List (Shape α)} {f : Option Frame} {chain more : Bool}
    {y : NodeKind × α × Bool} (h : y ∈ judgeAll f chain more F) : y.2.1 ∈ tagsAll F := by
  rw [← tags_judgeAll F f chain more]
  exact List.mem_map_of_mem h

theorem judgeAll_append (f : Option Frame) (chain more : Bool) (F G : List (Shape α)) :
    judgeAll f chain more (F ++ G) = judgeAll f chain (more || !G.isEmpty) F ++ judgeAll f chain more G := by
  induction F with
  | nil => rfl
  | cons s ss ih =>
    have hlast : (!more && (ss ++ G).isEmpty) = (!(more || !G.isEmpty) && ss.isEmpty) := by
      cases more <;> cases ss <;> cases G <;> rfl
    simp only [List.cons_append, judgeAll, ih, hlast, List.append_assoc]

/-- The frame a node hands its children. -/
def Frame.below (f : Option Frame) (k : NodeKind) (d : Bool) : Option Frame :=
  some ⟨k, d, f.map fun g => (g.kind, g.discarded)⟩

theorem judgeAll_node (f : Option Frame) (chain more : Bool) (k : NodeKind) (t : α)
    (cs : List (Shape α)) :
    judgeAll f chain more [node k t cs] =
      (k, t, Frame.verdict f k (!more) (chain && !more)) ::
        judgeAll (Frame.below f k (Frame.verdict f k (!more) (chain && !more)))
          (k == .qualifiedReference) false cs := by
  simp [judgeAll, judge, Frame.below]

/-! ## Nodes below a position

With tags that are positions in a tree, `Confined J J' q` says that every node of the judged
forest `J` standing at or below `q` is found in `J'`: the part of a judgement that speaks of one
subtree. -/

section Confined

variable {β : Type}

/-- Every node of `J` whose tag extends `q` is a node of `J'`. -/
def Confined (J J' : List (NodeKind × List β × Bool)) (q : List β) : Prop :=
  ∀ y ∈ J, q <+: y.2.1 → y ∈ J'

theorem Confined.refl (J : List (NodeKind × List β × Bool)) (q : List β) : Confined J J q :=
  fun _ hy _ => hy

theorem Confined.trans {J J₁ J₂ : List (NodeKind × List β × Bool)} {q : List β}
    (h₁ : Confined J J₁ q) (h₂ : Confined J₁ J₂ q) : Confined J J₂ q :=
  fun y hy hq => h₂ y (h₁ y hy hq) hq

theorem Confined.of_prefix {J J' : List (NodeKind × List β × Bool)} {q q' : List β}
    (hq : q <+: q') (h : Confined J J' q) : Confined J J' q' :=
  fun y hy hq' => h y hy (hq.trans hq')

theorem Confined.of_nil {J J' : List (NodeKind × List β × Bool)} {q : List β}
    (h : Confined J [] q) : Confined J J' q :=
  fun y hy hq => absurd (h y hy hq) List.not_mem_nil

theorem Confined.append {J₁ J₂ J' : List (NodeKind × List β × Bool)} {q : List β}
    (h₁ : Confined J₁ J' q) (h₂ : Confined J₂ J' q) : Confined (J₁ ++ J₂) J' q := by
  intro y hy hq
  rcases List.mem_append.1 hy with hy | hy
  · exact h₁ y hy hq
  · exact h₂ y hy hq

theorem Confined.of_tags {F : List (Shape (List β))} {f : Option Frame} {chain more : Bool}
    {J' : List (NodeKind × List β × Bool)} {q : List β} (h : ∀ x ∈ tagsAll F, ¬ q <+: x) :
    Confined (judgeAll f chain more F) J' q :=
  fun _ hy hq => absurd hq (h _ (tag_mem_of_mem_judgeAll hy))

theorem Confined.node {f : Option Frame} {chain more : Bool} {k : NodeKind} {t : List β}
    {cs : List (Shape (List β))} {J' : List (NodeKind × List β × Bool)} {q : List β}
    (ht : ¬ q <+: t)
    (h : Confined (judgeAll (Frame.below f k (Frame.verdict f k (!more) (chain && !more)))
      (k == .qualifiedReference) false cs) J' q) :
    Confined (judgeAll f chain more [node k t cs]) J' q := by
  rw [judgeAll_node]
  intro y hy hq
  rcases List.mem_cons.1 hy with rfl | hy
  · exact absurd hq ht
  · exact h y hy hq

end Confined

/-- The verdicts of a forest's call nodes, top down and in order. -/
def callVerdicts (F : List (Shape α)) : List Bool :=
  (judgeAll none false false F).filterMap fun p => if p.1 = .call then some p.2.2 else none

theorem map_callPositions (D : Nat → Bool) : ∀ (E : List Entry) (J : List (NodeKind × α × Bool))
    (base : Nat), J.map Prod.fst = E.map (·.1) →
    (∀ i < E.length, (J.map (·.2.2))[i]? = some (D (base + i))) →
    (callPositions base E).map D = J.filterMap fun p => if p.1 = .call then some p.2.2 else none
  | [], J, _, hk, _ => by
    rw [List.map_nil, List.map_eq_nil_iff] at hk
    simp [callPositions, hk]
  | e :: es, J, base, hk, hD => by
    obtain ⟨⟨k, u, d⟩, js, rfl⟩ : ∃ p js, J = p :: js := by
      cases J with
      | nil => simp at hk
      | cons p js => exact ⟨p, js, rfl⟩
    simp only [List.map_cons, List.cons.injEq] at hk
    have hd : d = D base := by simpa using hD 0 (by simp)
    have ih := map_callPositions D es js (base + 1) hk.2 fun i hi => by
      simpa [Nat.add_assoc, Nat.add_comm 1] using hD (i + 1) (by simp; omega)
    rw [callPositions, List.map_append, ih, List.filterMap_cons, hk.1, hd]
    split <;> simp_all

end Shape

/-- What the walks read of an arena: each node's kind, parent and selector. -/
def Arena.skeleton (a : Arena) : List Shape.Entry :=
  a.nodes.toList.map fun n => (n.kind, n.parent, n.selector)

namespace Arena

variable {α : Type} {a : Arena}

@[simp]
theorem length_skeleton : a.skeleton.length = a.size := by
  simp [skeleton, size]

theorem of_skeleton {i : Nat} {e : Shape.Entry} (h : a.skeleton[i]? = some e) :
    a.kindOf i = e.1 ∧ a.parentOf i = e.2.1 ∧
      a.selectorOf i = if e.1 = .qualifiedReference then e.2.2 else none := by
  simp only [skeleton, List.getElem?_map, Array.getElem?_toList, Option.map_eq_some_iff] at h
  obtain ⟨n, hn, rfl⟩ := h
  simp [kindOf, parentOf, selectorOf, get?, hn]

end Arena

/-- What a frame says of the parent `P` of a forest: its kind, its verdict, and its parent's. -/
def Arena.Describes (a : Arena) : Option Nat → Option Shape.Frame → Prop
  | none, none => True
  | some p, some g => g.kind = a.kindOf p ∧ g.discarded = a.isValueDiscarded p ∧
      g.owner = (a.parentOf p).map fun o => (a.kindOf o, a.isValueDiscarded o)
  | _, _ => False

theorem Arena.Describes.none_or_some {a : Arena} {P : Option Nat} {f : Option Shape.Frame}
    (h : a.Describes P f) :
    (P = none ∧ f = none) ∨ ∃ p g, P = some p ∧ f = some g ∧ g.kind = a.kindOf p ∧
      g.discarded = a.isValueDiscarded p ∧
      g.owner = (a.parentOf p).map fun o => (a.kindOf o, a.isValueDiscarded o) := by
  cases P with
  | none =>
    cases f with
    | none => exact .inl ⟨rfl, rfl⟩
    | some g => exact absurd h (by simp [Arena.Describes])
  | some p =>
    cases f with
    | none => exact absurd h (by simp [Arena.Describes])
    | some g => exact .inr ⟨p, g, rfl, rfl, h⟩

namespace Shape

theorem getElem?_entriesAll_head (k : NodeKind) (t : α) (cs rest : List (Shape α)) (base : Nat)
    (P : Option Nat) :
    (entriesAll base P (node k t cs :: rest))[0]? = some (k, P, selectorAt k base cs) := by
  simp [entriesAll, entries]

theorem getElem?_entriesAll_child (k : NodeKind) (t : α) (cs rest : List (Shape α)) (base : Nat)
    (P : Option Nat) {j : Nat} (hj : j < sizeAll cs) :
    (entriesAll base P (node k t cs :: rest))[j + 1]? = (entriesAll (base + 1) (some base) cs)[j]? := by
  simp only [entriesAll, entries, List.cons_append, List.getElem?_cons_succ]
  rw [List.getElem?_append_left (by rw [length_entriesAll]; exact hj)]

theorem getElem?_entriesAll_rest (s : Shape α) (rest : List (Shape α)) (base : Nat)
    (P : Option Nat) (j : Nat) :
    (entriesAll base P (s :: rest))[size s + j]? = (entriesAll (base + size s) P rest)[j]? := by
  simp only [entriesAll]
  rw [List.getElem?_append_right (by rw [length_entries]; omega), length_entries]
  congr 1
  omega

theorem getElem?_entriesAll_after (k : NodeKind) (t : α) (cs rest : List (Shape α)) (base : Nat)
    (P : Option Nat) (j : Nat) :
    (entriesAll base P (node k t cs :: rest))[sizeAll cs + 1 + j]? =
      (entriesAll (base + (sizeAll cs + 1)) P rest)[j]? :=
  getElem?_entriesAll_rest (node k t cs) rest base P j

end Shape

namespace Arena

open Shape

variable {α : Type} {a : Arena}

theorem parentOf_laid {F : List (Shape α)} {base : Nat} {P : Option Nat}
    (hocc : ∀ j < sizeAll F, a.skeleton[base + j]? = (entriesAll base P F)[j]?) {j : Nat}
    (hj : j < sizeAll F) :
    a.parentOf (base + j) = P ∨ ∃ q, a.parentOf (base + j) = some q ∧ base ≤ q ∧ q < base + j := by
  obtain ⟨e, he⟩ : ∃ e, (entriesAll base P F)[j]? = some e :=
    Option.isSome_iff_exists.mp (by simp [length_entriesAll, hj])
  have hpe := (of_skeleton ((hocc j hj).trans he)).2.1
  rcases parent_entriesAll F base P j e he with h | ⟨q, h1, h2, h3⟩
  · exact .inl (hpe.trans h)
  · exact .inr ⟨q, hpe.trans h1, h2, h3⟩

theorem parentOf_after_head {k : NodeKind} {t : α} {cs rest : List (Shape α)} {base : Nat}
    {P : Option Nat}
    (hocc : ∀ j < sizeAll (node k t cs :: rest),
      a.skeleton[base + j]? = (entriesAll base P (node k t cs :: rest))[j]?)
    (hP : ∀ p ∈ P, p < base)
    (hafter : ∀ j q, base + sizeAll (node k t cs :: rest) ≤ j → a.parentOf j = some q →
      q < base ∨ base + sizeAll (node k t cs :: rest) ≤ q) :
    ∀ j q, base + 1 + sizeAll cs ≤ j → a.parentOf j = some q →
      q < base ∨ base + 1 + sizeAll cs ≤ q := by
  have hsize : sizeAll (node k t cs :: rest) = sizeAll cs + 1 + sizeAll rest := rfl
  intro j q hj hjq
  rcases Nat.lt_or_ge j (base + sizeAll (node k t cs :: rest)) with hin | hout
  · -- a node of the later trees hangs from `P` or from an earlier node of those trees
    have hocc' : ∀ i < sizeAll rest, a.skeleton[base + (sizeAll cs + 1) + i]? =
        (entriesAll (base + (sizeAll cs + 1)) P rest)[i]? := by
      intro i hi
      rw [← getElem?_entriesAll_after, Nat.add_assoc]
      exact hocc _ (by omega)
    obtain ⟨i, rfl⟩ : ∃ i, j = base + (sizeAll cs + 1) + i := ⟨j - base - (sizeAll cs + 1), by omega⟩
    rcases parentOf_laid hocc' (j := i) (by omega) with h1 | ⟨q', h1, h2, -⟩
    · rw [hjq] at h1; subst h1; exact .inl (hP q rfl)
    · rw [hjq] at h1; cases h1; exact .inr (by omega)
  · rcases hafter j q hout hjq with h1 | h1
    · exact .inl h1
    · exact .inr (by omega)

theorem isLastChild_laid_head {k : NodeKind} {t : α} {cs rest : List (Shape α)} {base p : Nat}
    {more : Bool}
    (hocc : ∀ j < sizeAll (node k t cs :: rest),
      a.skeleton[base + j]? = (entriesAll base (some p) (node k t cs :: rest))[j]?)
    (hP : p < base)
    (hmore : more = true ↔ ∃ j, base + sizeAll (node k t cs :: rest) ≤ j ∧ a.parentOf j = some p) :
    a.isLastChild p base = (!more && rest.isEmpty) := by
  have hsize : sizeAll (node k t cs :: rest) = Shape.size (node k t cs) + sizeAll rest := rfl
  have hx := hocc 0 (by have := Shape.size_pos (node k t cs); omega)
  rw [getElem?_entriesAll_head, Nat.add_zero] at hx
  apply Bool.eq_iff_iff.mpr
  rw [isLastChild_iff]
  constructor
  · rintro ⟨-, hnext⟩
    cases rest with
    | cons r rs =>
      exfalso
      obtain ⟨kr, tr, csr⟩ := r
      have hr := hocc (Shape.size (node k t cs) + 0) (by have := Shape.size_pos (node kr tr csr); simp only [sizeAll]; omega)
      rw [getElem?_entriesAll_rest, getElem?_entriesAll_head] at hr
      exact hnext _ (by have := Shape.size_pos (node k t cs); omega) (of_skeleton hr).2.1
    | nil =>
      cases more with
      | false => rfl
      | true =>
        obtain ⟨j, hj, hjp⟩ := hmore.mp rfl
        exact absurd hjp (hnext j (by have := Shape.size_pos (node k t cs); omega))
  · intro h
    simp only [Bool.and_eq_true, Bool.not_eq_eq_eq_not, Bool.not_true, List.isEmpty_iff] at h
    obtain ⟨hm, rfl⟩ := h
    refine ⟨(of_skeleton hx).2.1, fun j hj hjp => ?_⟩
    rcases Nat.lt_or_ge j (base + Shape.size (node k t cs)) with hin | hout
    · -- a node inside the first shape hangs from a node of that shape
      obtain ⟨i, rfl⟩ : ∃ i, j = base + 1 + i := ⟨j - base - 1, by omega⟩
      have hi : i < sizeAll cs := by simp only [Shape.size] at hin; omega
      have he := hocc (i + 1) (by simp only [hsize, Shape.size]; omega)
      rw [getElem?_entriesAll_child _ _ _ _ _ _ hi] at he
      obtain ⟨e, he'⟩ : ∃ e, (entriesAll (base + 1) (some base) cs)[i]? = some e :=
        Option.isSome_iff_exists.mp (by simp [length_entriesAll, hi])
      have hpe := (of_skeleton (he.trans he')).2.1
      rw [show base + (i + 1) = base + 1 + i by omega] at hpe
      rcases parent_entriesAll cs (base + 1) (some base) i e he' with h1 | ⟨q, h1, h2, -⟩
      · rw [hjp, h1] at hpe; cases hpe; omega
      · rw [hjp, h1] at hpe; cases hpe; omega
    · rw [hm] at hmore
      exact absurd (hmore.mpr ⟨j, by simp only [sizeAll]; omega, hjp⟩) (by simp)

theorem isValueDiscarded_laid_head {k : NodeKind} {t : α} {cs rest : List (Shape α)} {base : Nat}
    {P : Option Nat} {f : Option Frame} {chain more : Bool}
    (hocc : ∀ j < sizeAll (node k t cs :: rest),
      a.skeleton[base + j]? = (entriesAll base P (node k t cs :: rest))[j]?)
    (hP : ∀ p ∈ P, p < base)
    (hmore : ∀ p ∈ P,
      (more = true ↔ ∃ j, base + sizeAll (node k t cs :: rest) ≤ j ∧ a.parentOf j = some p))
    (hchain : ∀ p ∈ P, ∀ r, base ≤ r → r < base + sizeAll (node k t cs :: rest) →
      (a.kindOf p = .qualifiedReference ∧ a.selectorOf p = some r ↔
        chain = true ∧ more = false ∧ r = base + sizeAll (node k t cs :: rest).dropLast))
    (hf : a.Describes P f) :
    a.isValueDiscarded base =
      Frame.verdict f k (!more && rest.isEmpty) (chain && (!more && rest.isEmpty)) := by
  have hpos := Shape.size_pos (node k t cs)
  have hx := hocc 0 (by simp only [sizeAll]; omega)
  rw [getElem?_entriesAll_head, Nat.add_zero] at hx
  obtain ⟨hk, hp, -⟩ := of_skeleton hx
  simp only at hk hp
  cases hke : k.isExpression with
  | false =>
    rw [isValueDiscarded_of_not_expression (hk ▸ hke), hp]
    rcases hf.none_or_some with ⟨rfl, rfl⟩ | ⟨p, g, rfl, rfl, -, hgd, -⟩
    · rfl
    · simp [Frame.verdict, hke, hgd]
  | true =>
    rcases hf.none_or_some with ⟨rfl, rfl⟩ | ⟨p, g, rfl, rfl, hgk, hgd, hgo⟩
    · exact isValueDiscarded_of_root (hk ▸ hke) hp
    have hsel := hchain p rfl base (Nat.le_refl _) (by simp only [sizeAll]; omega)
    -- the head is its parent's selector exactly when it is the parent's only child
    have hdrop : (base = base + sizeAll (node k t cs :: rest).dropLast) ↔ rest = [] := by
      cases rest with
      | nil => simp [sizeAll]
      | cons r rs =>
        rw [sizeAll_cons_dropLast _ (List.cons_ne_nil r rs)]
        simp only [reduceCtorEq, iff_false]
        omega
    by_cases hs : a.kindOf p = .qualifiedReference ∧ a.selectorOf p = some base
    · rw [isValueDiscarded_of_selector (hk ▸ hke) hp hs.1 hs.2]
      obtain ⟨h1, h2, h3⟩ := hsel.mp hs
      have hr : rest = [] := hdrop.mp h3
      subst hr
      simp [Frame.verdict, h1, h2, hgd]
    · rw [isValueDiscarded_of_place (hk ▸ hke) hp hs, placeVerdict]
      have hn : (chain && (!more && rest.isEmpty)) = false := by
        cases hc : (chain && (!more && rest.isEmpty)) with
        | false => rfl
        | true =>
          simp only [Bool.and_eq_true, Bool.not_eq_eq_eq_not, Bool.not_true,
            List.isEmpty_iff] at hc
          exact absurd (hsel.mpr ⟨hc.1, hc.2.1, hdrop.mpr hc.2.2⟩) hs
      have hl := isLastChild_laid_head hocc (hP p rfl) (hmore p rfl)
      simp only [Frame.verdict, hke, hn, Bool.not_true, Bool.or_false, Bool.false_eq_true,
        if_false, hgk]
      cases hkp : a.kindOf p with
      | block =>
        cases hpo : a.parentOf p with
        | none => simp [hgo, hpo]
        | some o => cases hko : a.kindOf o <;> simp [hgo, hpo, hl, hko]
      | callable c => cases c <;> rfl
      | _ => rfl

/-- The top-down verdicts of a forest laid out in an arena from `base` under `P` are the walk's
verdicts, when the frame `f` describes `P`, every node after the forest hangs outside it, the
later children of `P` are announced by `more`, and `P`'s selector, when it falls in the forest,
is the forest's last top node, announced by `chain`. -/
theorem judgeAll_spec : ∀ (F : List (Shape α)) (base : Nat) (P : Option Nat) (f : Option Frame)
    (chain more : Bool),
    (∀ j < sizeAll F, a.skeleton[base + j]? = (entriesAll base P F)[j]?) →
    (∀ p ∈ P, p < base) →
    (∀ j q, base + sizeAll F ≤ j → a.parentOf j = some q → q < base ∨ base + sizeAll F ≤ q) →
    (∀ p ∈ P, (more = true ↔ ∃ j, base + sizeAll F ≤ j ∧ a.parentOf j = some p)) →
    (∀ p ∈ P, ∀ r, base ≤ r → r < base + sizeAll F →
      (a.kindOf p = .qualifiedReference ∧ a.selectorOf p = some r ↔
        chain = true ∧ more = false ∧ r = base + sizeAll F.dropLast)) →
    a.Describes P f →
    ∀ j < sizeAll F,
      ((judgeAll f chain more F).map (·.2.2))[j]? = some (a.isValueDiscarded (base + j))
  | [], _, _, _, _, _, _, _, _, _, _, _, j, hj => by simp [sizeAll] at hj
  | node k t cs :: rest, base, P, f, chain, more, hocc, hP, hafter, hmore, hchain, hf, j, hj => by
    have hsize : sizeAll (node k t cs :: rest) = sizeAll cs + 1 + sizeAll rest := rfl
    have hhead := isValueDiscarded_laid_head hocc hP hmore hchain hf
    have hkids : ∀ j < sizeAll cs, ((judgeAll (some ⟨k, Frame.verdict f k (!more && rest.isEmpty)
        (chain && (!more && rest.isEmpty)), f.map fun g => (g.kind, g.discarded)⟩)
        (k == .qualifiedReference) false cs).map (·.2.2))[j]? =
          some (a.isValueDiscarded (base + 1 + j)) := by
      have hx := hocc 0 (by omega)
      rw [getElem?_entriesAll_head, Nat.add_zero] at hx
      obtain ⟨hk, hp, hs⟩ := of_skeleton hx
      simp only at hk hp hs
      have hrest := parentOf_after_head hocc hP hafter
      refine judgeAll_spec cs (base + 1) (some base) _ _ false ?_ ?_ ?_ ?_ ?_ ?_
      · intro i hi
        rw [← getElem?_entriesAll_child k t cs rest base P hi, show base + 1 + i = base + (i + 1) by omega]
        exact hocc _ (by omega)
      · intro p hp; cases hp; omega
      · intro j q hj hjq
        rcases hrest j q hj hjq with h1 | h1
        · exact .inl (by omega)
        · exact .inr h1
      · intro p hp
        cases hp
        simp only [Bool.false_eq_true, false_iff, not_exists, not_and]
        intro j hj hjp
        rcases hrest j base hj hjp with h1 | h1 <;> omega
      · intro p hp r hr1 hr2
        cases hp
        rw [hk, hs]
        have hcs : cs ≠ [] := by rintro rfl; simp [sizeAll] at hr2; omega
        by_cases hq : k = .qualifiedReference
        · simp [hq, selectorAt, hcs, eq_comm]
        · simp [hq]
      · refine ⟨hk.symm, hhead.symm, ?_⟩
        rw [hp]
        rcases hf.none_or_some with ⟨rfl, rfl⟩ | ⟨p, g, rfl, rfl, hgk, hgd, -⟩
        · rfl
        · simp [hgk, hgd]
    have hrestSpec : ∀ j < sizeAll rest, ((judgeAll f chain more rest).map (·.2.2))[j]? =
        some (a.isValueDiscarded (base + (sizeAll cs + 1) + j)) := by
      refine judgeAll_spec rest (base + (sizeAll cs + 1)) P f chain more ?_ ?_ ?_ ?_ ?_ hf
      · intro i hi
        rw [← getElem?_entriesAll_after, Nat.add_assoc]
        exact hocc _ (by omega)
      · intro p hp; have := hP p hp; omega
      · intro j q hj hjq
        rcases hafter j q (by omega) hjq with h1 | h1
        · exact .inl (by omega)
        · exact .inr (by omega)
      · intro p hp
        rw [hmore p hp]
        simp only [hsize]
        constructor <;> rintro ⟨j, hj, hjp⟩ <;> exact ⟨j, by omega, hjp⟩
      · intro p hp r hr1 hr2
        rw [hchain p hp r (by omega) (by omega)]
        have hne : rest ≠ [] := by rintro rfl; simp [sizeAll] at hr2; omega
        rw [sizeAll_cons_dropLast _ hne]
        simp only [Shape.size]
        constructor <;> rintro ⟨h1, h2, h3⟩ <;> exact ⟨h1, h2, by omega⟩
    simp only [judgeAll, judge, List.map_append, List.map_cons, List.cons_append]
    rcases Nat.lt_or_ge j (sizeAll cs + 1) with hin | hout
    · cases j with
      | zero => simp [hhead]
      | succ i =>
        simp only [List.getElem?_cons_succ]
        rw [List.getElem?_append_left (by simp [length_judgeAll]; omega), hkids i (by omega)]
        congr 2
        omega
    · obtain ⟨i, rfl⟩ : ∃ i, j = sizeAll cs + 1 + i := ⟨j - (sizeAll cs + 1), by omega⟩
      rw [show sizeAll cs + 1 + i = (sizeAll cs + i) + 1 by omega, List.getElem?_cons_succ,
        List.getElem?_append_right (by simp [length_judgeAll])]
      simp only [List.length_map, length_judgeAll]
      rw [show sizeAll cs + i - sizeAll cs = i by omega, hrestSpec i (by omega)]
      congr 2
      omega
termination_by F => sizeAll F
decreasing_by
  all_goals simp only [sizeAll, Shape.size]; omega

/-- On an arena laid out from a forest, the walk's verdict at every node is the forest's top-down
verdict. -/
theorem isValueDiscarded_eq_judge {F : List (Shape α)} (h : a.skeleton = entriesAll 0 none F) :
    ∀ i < a.size, ((judgeAll none false false F).map (·.2.2))[i]? = some (a.isValueDiscarded i) := by
  have hsize : a.size = sizeAll F := by rw [← length_skeleton, h, length_entriesAll]
  intro i hi
  have := judgeAll_spec F 0 none none false false (fun j _ => by rw [h, Nat.zero_add])
    (fun _ hp => by cases hp)
    (fun j q hj hjq => by rw [parentOf_eq_none_of_size_le (by omega)] at hjq; cases hjq)
    (fun _ hp => by cases hp) (fun _ hp => by cases hp) trivial i (by omega)
  rwa [Nat.zero_add] at this

theorem mem_judgeAll_of_tag {F : List (Shape α)} (h : a.skeleton = entriesAll 0 none F) {i : Nat}
    {t : α} (ht : (tagsAll F)[i]? = some t) :
    ∃ k, ((entriesAll 0 none F).map (·.1))[i]? = some k ∧
      (k, t, a.isValueDiscarded i) ∈ judgeAll none false false F := by
  have hlen : (tagsAll F).length = a.size := by
    rw [← tags_judgeAll F none false false, List.length_map, length_judgeAll, ← length_skeleton,
      h, length_entriesAll]
  have hi : i < a.size := hlen ▸ (List.getElem?_eq_some_iff.1 ht).1
  have htag : ((judgeAll none false false F).map (·.2.1))[i]? = some t := by
    rw [tags_judgeAll]
    exact ht
  have hd := isValueDiscarded_eq_judge h i hi
  rw [← kinds_judgeAll F none false false 0 none]
  cases hy : (judgeAll none false false F)[i]? with
  | none => simp [hy] at htag
  | some y =>
    obtain ⟨k, u, d⟩ := y
    simp only [List.getElem?_map, hy, Option.map_some, Option.some.injEq] at htag hd ⊢
    subst htag hd
    exact ⟨k, rfl, List.mem_of_getElem? hy⟩

/-- On an arena laid out from a forest, the walk's verdicts at the call nodes, in order, are the
forest's top-down verdicts of its calls. -/
theorem discarded_callPositions {F : List (Shape α)} (h : a.skeleton = entriesAll 0 none F) :
    (callPositions 0 (entriesAll 0 none F)).map a.isValueDiscarded = callVerdicts F :=
  map_callPositions _ _ _ 0 (kinds_judgeAll F none false false 0 none) fun i hi => by
    rw [Nat.zero_add, isValueDiscarded_eq_judge h i (by rwa [← length_skeleton, h])]

end Arena

end ResultLint
