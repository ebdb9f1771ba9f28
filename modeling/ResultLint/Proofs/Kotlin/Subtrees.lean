import ResultLint.Proofs.Kotlin.Shape

/-!
# Where the nodes of a Kotlin subtree lie

The nodes lowered for a tree are tagged with positions, and those at or below the position of a
subtree are nodes lowered for that subtree, judged in some frame (`confined_at`). One lowering
step takes one of a few forms (`Step`, read off every node by `shape_step`); below a child each
form leaves the nodes of one subtree lowered on its own (`confined_step`), and a tag extends the
position of the node it was lowered for (`tags_shape`).

A navigation whose first named child were its own suffix would have that suffix lowered twice,
as receiver and as selector. The grammar never builds one; `receiversFirst` says so of a tree.
-/

namespace ResultLint

namespace Tree

variable {κ : Type}

theorem at?_append : ∀ (t : Tree κ) (p q : List Nat), t.at? (p ++ q) = (t.at? p).bind (·.at? q)
  | _, [], _ => rfl
  | t, i :: p, q => by
    simp only [List.cons_append, at?]
    cases t.children[i]? with
    | none => rfl
    | some c => exact at?_append c p q

end Tree

namespace Kotlin

open Shape

theorem getElem?_kindIndex {t s : Syntax} {k : Kind} (h : t.childOfKind? k = some s) :
    t.children[kindIndex t k]? = some s := by
  rw [kindIndex, ← List.find?_eq_getElem?_findIdx]
  exact h

theorem kind_of_childOfKind? {t s : Syntax} {k : Kind} (h : t.childOfKind? k = some s) :
    s.kind = k := by
  simpa using List.find?_some h

theorem head?_namedChildren (t : Syntax) :
    (namedChildren t).head? = t.children[firstNamedIndex t]? := by
  rw [namedChildren, List.head?_filter, List.find?_eq_getElem?_findIdx]
  rfl

theorem shape_transparent {t : Syntax} (h : role t.kind = .transparent) (fuel : Nat)
    (p : List Nat) : shape (fuel + 1) p t = shapeAll fuel p 0 t.children := by
  obtain ⟨kind, field, span, children⟩ := t
  simp only [Tree.kind] at h
  simp only [shape, h, Tree.children]

theorem shape_plain {t : Syntax} (h : role t.kind = .plain) (fuel : Nat) (p : List Nat) :
    shape (fuel + 1) p t = shapePlain fuel p t.kind t.children := by
  obtain ⟨kind, field, span, children⟩ := t
  simp only [Tree.kind] at h
  simp only [shape, h, Tree.children, Tree.kind]

theorem shape_navigationSuffix {nav : Syntax} (h : nav.kind = .navigationSuffix) (fuel : Nat)
    (p : List Nat) :
    shape (fuel + 2) p nav = [.node .expression p (shapeAll fuel p 0 nav.children)] := by
  rw [shape_plain (by rw [h]; rfl), shapePlain, h]
  rfl

/-- The nodes a call leaves for its suffix: none, or those of the suffix's children, the suffix
being a child of the call. -/
inductive SuffixShape (fuel : Nat) (p : List Nat) (t : Syntax) : List (Shape (List Nat)) → Prop
  | none : SuffixShape fuel p t []
  | some {k : Nat} {s : Syntax} : t.children[k]? = some s → s.kind = .callSuffix →
      SuffixShape fuel p t (shapeAll fuel (p ++ [k]) 0 s.children)

/-- The forms the nodes of one lowering step of a node `t` at `p` take, with `fuel` steps left
below it: nothing, its children's nodes, one node over its children's nodes, a call over its
suffix's nodes, a chain of a receiver's nodes and a call, or a chain of a receiver's nodes and
the navigation suffix's node. -/
inductive Step (fuel : Nat) (p : List Nat) (t : Syntax) : List (Shape (List Nat)) → Prop
  | dropped : Step fuel p t []
  | transparent : role t.kind = .transparent → Step fuel p t (shapeAll fuel p 0 t.children)
  | node {k : NodeKind} {fuel' : Nat} : k ≠ .qualifiedReference → k ≠ .call → fuel' ≤ fuel →
      Step fuel p t [.node k p (shapeAll fuel' p 0 t.children)]
  | call {S : List (Shape (List Nat))} : SuffixShape fuel p t S → Step fuel p t [.node .call p S]
  | callChain {S : List (Shape (List Nat))} {a b : Nat} {callee receiver : Syntax} :
      t.children[a]? = some callee → callee.kind = .navigationExpression →
      callee.children[b]? = some receiver → SuffixShape fuel p t S →
      Step fuel p t
        [.node .qualifiedReference p (shape fuel (p ++ [a, b]) receiver ++ [.node .call p S])]
  | navigation {a k : Nat} {receiver nav : Syntax} : t.kind = .navigationExpression →
      (namedChildren t).head? = some receiver → t.children[a]? = some receiver →
      t.children[k]? = some nav → nav.kind = .navigationSuffix →
      Step fuel p t [.node .qualifiedReference p (shape fuel (p ++ [a]) receiver ++
        [.node .expression (p ++ [k]) (shapeAll fuel (p ++ [k]) 0 nav.children)])]

theorem shapePlain_step (fuel : Nat) (p : List Nat) (t : Syntax) :
    Step fuel p t (shapePlain fuel p t.kind t.children) := by
  cases fuel with
  | zero => exact .dropped
  | succ fuel => exact .node (plainKind_ne t.kind).1 (plainKind_ne t.kind).2 (Nat.le_succ fuel)

/-- Every lowering step takes one of the forms of `Step`. -/
theorem shape_step (fuel : Nat) (p : List Nat) (t : Syntax) :
    Step fuel p t (shape (fuel + 1) p t) := by
  obtain ⟨kind, field, span, children⟩ := t
  have hplain := shapePlain_step fuel p (.node kind field span children)
  rw [shape]
  cases hr : role kind with
  | dropped => exact .dropped
  | transparent => exact .transparent hr
  | typeDeclaration | function | constructor => exact .node (by decide) (by decide) (Nat.le_refl fuel)
  | call =>
    dsimp only
    cases hn : namedChildren (Tree.node kind field span children) with
    | nil => exact hplain
    | cons callee others =>
      have hcallee : (Tree.node kind field span children).children[firstNamedIndex
          (Tree.node kind field span children)]? = some callee := by
        rw [← head?_namedChildren, hn]
        rfl
      dsimp only
      by_cases hk : callee.kind = .simpleIdentifier
      · rw [if_pos hk]
        cases hs : (Tree.node kind field span children).childOfKind? .callSuffix with
        | none => exact .call .none
        | some s => exact .call (.some (getElem?_kindIndex hs) (kind_of_childOfKind? hs))
      · rw [if_neg hk]
        by_cases hk' : callee.kind = .navigationExpression
        · rw [if_pos hk']
          cases hr : (namedChildren callee).head? with
          | none => exact hplain
          | some receiver =>
            cases hnav : callee.childOfKind? .navigationSuffix with
            | none => exact hplain
            | some nav =>
              simp only [Option.bind_some]
              cases nav.childOfKind? .simpleIdentifier with
              | none => exact hplain
              | some ident =>
                rw [head?_namedChildren] at hr
                cases hs : (Tree.node kind field span children).childOfKind? .callSuffix with
                | none => exact .callChain hcallee hk' hr .none
                | some s =>
                  exact .callChain hcallee hk' hr
                    (.some (getElem?_kindIndex hs) (kind_of_childOfKind? hs))
        · rw [if_neg hk']
          exact hplain
  | navigation =>
    dsimp only
    cases hr : (namedChildren (Tree.node kind field span children)).head? with
    | none => exact hplain
    | some receiver =>
      cases hnav : (Tree.node kind field span children).childOfKind? .navigationSuffix with
      | none => exact hplain
      | some nav =>
        have hk : kind = .navigationExpression := by cases kind <;> simp_all [role]
        have hrecv := hr
        rw [head?_namedChildren] at hrecv
        exact .navigation hk hr hrecv (getElem?_kindIndex hnav) (kind_of_childOfKind? hnav)
  | plain => exact hplain

theorem isPrefix_of_append {p q x : List Nat} (h : p ++ q <+: x) : p <+: x :=
  (List.prefix_append p q).trans h

mutual

/-- The nodes lowered for a node at `p` lie at or below `p`. -/
theorem tags_shape : ∀ (fuel : Nat) (p : List Nat) (t : Syntax),
    ∀ x ∈ tagsAll (shape fuel p t), p <+: x
  | 0, p, t => by simp [shape, tagsAll]
  | fuel + 1, p, t => by
    have hsuffix : ∀ {S}, SuffixShape fuel p t S → ∀ x ∈ tagsAll S, p <+: x := by
      intro S hS x hx
      cases hS with
      | none => simp [tagsAll] at hx
      | @some k s _ _ =>
        obtain ⟨j, -, hj⟩ := tags_shapeAll fuel (p ++ [k]) 0 s.children x hx
        exact isPrefix_of_append (isPrefix_of_append hj)
    intro x hx
    have hs := shape_step fuel p t
    generalize shape (fuel + 1) p t = F at hs hx
    cases hs with
    | dropped => simp [tagsAll] at hx
    | transparent _ =>
      obtain ⟨j, -, hj⟩ := tags_shapeAll fuel p 0 t.children x hx
      exact isPrefix_of_append hj
    | @node k fuel' _ _ hle =>
      simp only [tagsAll, tags, List.append_nil, List.mem_cons] at hx
      rcases hx with rfl | hx
      · exact List.prefix_refl _
      · obtain ⟨j, -, hj⟩ := tags_shapeAll fuel' p 0 t.children x hx
        exact isPrefix_of_append hj
    | call hS =>
      simp only [tagsAll, tags, List.append_nil, List.mem_cons] at hx
      rcases hx with rfl | hx
      · exact List.prefix_refl _
      · exact hsuffix hS x hx
    | @callChain S a b callee receiver _ _ _ hS =>
      simp only [tagsAll, tags, tagsAll_append, List.append_nil, List.mem_cons,
        List.mem_append] at hx
      rcases hx with rfl | hx | rfl | hx
      · exact List.prefix_refl _
      · exact isPrefix_of_append (tags_shape fuel (p ++ [a, b]) receiver x hx)
      · exact List.prefix_refl _
      · exact hsuffix hS x hx
    | @navigation a k receiver nav _ _ _ _ _ =>
      simp only [tagsAll, tags, tagsAll_append, List.append_nil, List.mem_cons,
        List.mem_append] at hx
      rcases hx with rfl | hx | rfl | hx
      · exact List.prefix_refl _
      · exact isPrefix_of_append (tags_shape fuel (p ++ [a]) receiver x hx)
      · exact List.prefix_append _ _
      · obtain ⟨j, -, hj⟩ := tags_shapeAll fuel (p ++ [k]) 0 nav.children x hx
        exact isPrefix_of_append (isPrefix_of_append hj)
termination_by fuel => fuel

theorem tags_shapeAll : ∀ (fuel : Nat) (p : List Nat) (i : Nat) (ts : List Syntax),
    ∀ x ∈ tagsAll (shapeAll fuel p i ts), ∃ j, i ≤ j ∧ p ++ [j] <+: x
  | 0, _, _, _ => by simp [shapeAll, tagsAll]
  | _ + 1, _, _, [] => by simp [shapeAll, tagsAll]
  | fuel + 1, p, i, n :: rest => by
    intro x hx
    rw [shapeAll, tagsAll_append, List.mem_append] at hx
    rcases hx with hx | hx
    · exact ⟨i, Nat.le_refl i, tags_shape fuel (p ++ [i]) n x hx⟩
    · obtain ⟨j, hj, hx⟩ := tags_shapeAll fuel p (i + 1) rest x hx
      exact ⟨j, by omega, hx⟩
termination_by fuel => fuel

end

theorem not_append_prefix_self (p : List Nat) (j : Nat) : ¬ p ++ [j] <+: p :=
  fun h => absurd h.length_le (by simp)

theorem index_eq_of_below {p x : List Nat} {a b : Nat} (ha : p ++ [a] <+: x)
    (hb : p ++ [b] <+: x) : a = b := by
  simpa using (List.prefix_of_prefix_length_le ha hb (by simp)).eq_of_length (by simp)

theorem tags_shapeAll_below (fuel : Nat) (p : List Nat) (i : Nat) (ts : List Syntax) :
    ∀ x ∈ tagsAll (shapeAll fuel p i ts), p <+: x := fun x hx => by
  obtain ⟨j, -, hj⟩ := tags_shapeAll fuel p i ts x hx
  exact isPrefix_of_append hj

theorem confined_of_below {p : List Nat} {a j : Nat} {F : List (Shape (List Nat))}
    (hja : j ≠ a) (hF : ∀ x ∈ tagsAll F, p ++ [a] <+: x) {f : Option Shape.Frame}
    {chain more : Bool} {J' : List (NodeKind × List Nat × Bool)} :
    Confined (judgeAll f chain more F) J' (p ++ [j]) :=
  Confined.of_tags fun x hx hj => hja (index_eq_of_below hj (hF x hx))

theorem confined_shapeAll (f : Option Shape.Frame) (chain more : Bool) :
    ∀ (fuel : Nat) (p : List Nat) (i : Nat) (ts : List Syntax) (j : Nat),
    Confined (judgeAll f chain more (shapeAll fuel p i ts)) [] (p ++ [j]) ∨
    ∃ fuel' u, ts[j - i]? = some u ∧ i ≤ j ∧
      Confined (judgeAll f chain more (shapeAll fuel p i ts))
        (judgeAll f chain (more || !(shapeAll fuel' p (j + 1) (ts.drop (j - i + 1))).isEmpty)
          (shape fuel' (p ++ [j]) u)) (p ++ [j])
  | 0, p, i, ts, j => .inl (Confined.of_tags (by simp [shapeAll, tagsAll]))
  | _ + 1, p, i, [], j => .inl (Confined.of_tags (by simp [shapeAll, tagsAll]))
  | fuel + 1, p, i, n :: rest, j => by
    rw [shapeAll, judgeAll_append]
    have hfirst : ∀ {J'} {m}, j ≠ i →
        Confined (judgeAll f chain m (shape fuel (p ++ [i]) n)) J' (p ++ [j]) :=
      fun hne => confined_of_below hne (tags_shape fuel (p ++ [i]) n)
    have hrest : ∀ {J'}, j ≤ i → Confined (judgeAll f chain more (shapeAll fuel p (i + 1) rest)) J'
        (p ++ [j]) := fun hle => Confined.of_tags fun x hx hj => by
      obtain ⟨j', hj', hx⟩ := tags_shapeAll fuel p (i + 1) rest x hx
      have := index_eq_of_below hj hx
      omega
    rcases Nat.lt_or_ge j i with hlt | hge
    · exact .inl ((hfirst (by omega)).append (hrest (by omega)))
    · rcases Nat.eq_or_lt_of_le hge with rfl | hgt
      · refine .inr ⟨fuel, n, by simp, Nat.le_refl i, ?_⟩
        simpa using (Confined.refl _ _).append (hrest (Nat.le_refl i))
      · have hsub : j - i = j - (i + 1) + 1 := by omega
        rcases confined_shapeAll f chain more fuel p (i + 1) rest j with h | ⟨fuel', u, hu, hij, h⟩
        · exact .inl ((hfirst (by omega)).append h)
        · refine .inr ⟨fuel', u, ?_, by omega, ?_⟩
          · rw [hsub, List.getElem?_cons_succ]
            exact hu
          · rw [hsub, List.drop_succ_cons]
            exact (hfirst (by omega)).append h

/-- A navigation starts with its receiver: its first named child is not its suffix. -/
def startsWithReceiver (t : Syntax) : Bool :=
  t.kind != .navigationExpression ||
    ((namedChildren t).head?.map (·.kind != .navigationSuffix)).getD true

/-- Below the `j`-th child of a node, the nodes of one lowering step are those of one subtree
lowered on its own: the child itself, or, for a call on a navigation, its receiver. -/
theorem confined_step {fuel : Nat} {p : List Nat} {t : Syntax} {F : List (Shape (List Nat))}
    (hs : Step fuel p t F) (ht : startsWithReceiver t = true) (f : Option Shape.Frame)
    (chain more : Bool) (j : Nat) :
    Confined (judgeAll f chain more F) [] (p ++ [j]) ∨
    ∃ r u fuel' f' chain' more',
      (r = [j] ∨ ∃ b, r = [j, b] ∧ t.children[j]?.map Tree.kind = some .navigationExpression) ∧
      t.at? r = some u ∧
      Confined (judgeAll f chain more F) (judgeAll f' chain' more' (shape fuel' (p ++ r) u))
        (p ++ [j]) := by
  have hall : ∀ fuel' f' chain' more',
      Confined (judgeAll f' chain' more' (shapeAll fuel' p 0 t.children)) [] (p ++ [j]) ∨
      ∃ r u fuel'' f'' chain'' more'',
        (r = [j] ∨ ∃ b, r = [j, b] ∧ t.children[j]?.map Tree.kind = some .navigationExpression) ∧
        t.at? r = some u ∧
        Confined (judgeAll f' chain' more' (shapeAll fuel' p 0 t.children))
          (judgeAll f'' chain'' more'' (shape fuel'' (p ++ r) u)) (p ++ [j]) := by
    intro fuel' f' chain' more'
    rcases confined_shapeAll f' chain' more' fuel' p 0 t.children j with h | ⟨fuel'', u, hu, -, h⟩
    · exact .inl h
    · exact .inr ⟨[j], u, fuel'', _, _, _, .inl rfl, by simpa [Tree.at?] using hu, h⟩
  have hsuffix : ∀ {S} f' chain' more', SuffixShape fuel p t S →
      Confined (judgeAll f' chain' more' S) [] (p ++ [j]) ∨
      ∃ k s, t.children[k]? = some s ∧ s.kind = .callSuffix ∧ j = k ∧
        Confined (judgeAll f' chain' more' S)
          (judgeAll f' chain' more' (shape (fuel + 1) (p ++ [k]) s)) (p ++ [j]) := by
    intro S f' chain' more' hS
    cases hS with
    | none => exact .inl (Confined.of_tags (by simp [tagsAll]))
    | @some k s hk hsk =>
      by_cases hjk : j = k
      · subst hjk
        refine .inr ⟨j, s, hk, hsk, rfl, ?_⟩
        rw [shape_transparent (by rw [hsk]; rfl)]
        exact Confined.refl _ _
      · exact .inl (confined_of_below hjk (tags_shapeAll_below fuel (p ++ [k]) 0 s.children))
  have hown : ¬ p ++ [j] <+: p := not_append_prefix_self p j
  cases hs with
  | dropped => exact .inl (Confined.of_tags (by simp [tagsAll]))
  | transparent _ => exact hall fuel f chain more
  | node _ _ _ =>
    rcases hall _ _ _ _ with h | ⟨r, u, fuel'', f'', chain'', more'', hr, hu, h⟩
    · exact .inl (Confined.node hown h)
    · exact .inr ⟨r, u, fuel'', f'', chain'', more'', hr, hu, Confined.node hown h⟩
  | call hS =>
    rcases hsuffix _ _ _ hS with h | ⟨k, s, hk, -, rfl, h⟩
    · exact .inl (Confined.node hown h)
    · exact .inr ⟨[j], s, fuel + 1, _, _, _, .inl rfl, by simpa [Tree.at?] using hk,
        Confined.node hown h⟩
  | @callChain S a b callee receiver hcallee hnav hreceiver hS =>
    have hrecv : ∀ {J'} {m}, j ≠ a → Confined (judgeAll (Frame.below f .qualifiedReference
        (Frame.verdict f .qualifiedReference (!more) (chain && !more))) true m
        (shape fuel (p ++ [a, b]) receiver)) J' (p ++ [j]) :=
      fun hja => confined_of_below hja fun x hx =>
        isPrefix_of_append (p := p ++ [a]) (by simpa using tags_shape fuel _ receiver x hx)
    by_cases hja : j = a
    · subst hja
      refine .inr ⟨[j, b], receiver, fuel, Frame.below f .qualifiedReference
        (Frame.verdict f .qualifiedReference (!more) (chain && !more)), true, true,
        .inr ⟨b, rfl, by simp [hcallee, hnav]⟩, by simp [Tree.at?, hcallee, hreceiver],
        Confined.node hown ?_⟩
      rw [judgeAll_append]
      refine (Confined.refl _ _).append (Confined.node hown ?_)
      rcases hsuffix _ _ _ hS with h | ⟨k, s, hk, hsk, rfl, -⟩
      · exact h.of_nil
      · rw [hcallee] at hk
        cases hk
        rw [hnav] at hsk
        cases hsk
    · rcases hsuffix _ _ _ hS with h | ⟨k, s, hk, -, rfl, h⟩
      · refine .inl (Confined.node hown ?_)
        rw [judgeAll_append]
        exact (hrecv hja).append (Confined.node hown h)
      · refine .inr ⟨[j], s, fuel + 1, Frame.below (Frame.below f .qualifiedReference
          (Frame.verdict f .qualifiedReference (!more) (chain && !more))) .call
          (Frame.verdict (Frame.below f .qualifiedReference
            (Frame.verdict f .qualifiedReference (!more) (chain && !more))) .call true true),
          false, false, .inl rfl, by simpa [Tree.at?] using hk, Confined.node hown ?_⟩
        rw [judgeAll_append]
        exact (hrecv hja).append (Confined.node hown h)
  | @navigation a k receiver nav hkind hhead hreceiver hnav hnavk =>
    have hak : a ≠ k := by
      rintro rfl
      rw [hreceiver] at hnav
      cases hnav
      simp [startsWithReceiver, hkind, hhead, hnavk] at ht
    have hrecv : ∀ {J'} {m}, j ≠ a → Confined (judgeAll (Frame.below f .qualifiedReference
        (Frame.verdict f .qualifiedReference (!more) (chain && !more))) true m
        (shape fuel (p ++ [a]) receiver)) J' (p ++ [j]) :=
      fun hja => confined_of_below hja (tags_shape fuel _ receiver)
    have hsel : ∀ {f' J'}, j ≠ k → Confined (judgeAll f' true false
        [.node .expression (p ++ [k]) (shapeAll fuel (p ++ [k]) 0 nav.children)]) J' (p ++ [j]) :=
      fun hjk => confined_of_below hjk fun x hx => by
        simp only [tagsAll, tags, List.append_nil, List.mem_cons] at hx
        rcases hx with rfl | hx
        · exact List.prefix_refl _
        · exact tags_shapeAll_below fuel (p ++ [k]) 0 nav.children x hx
    by_cases hja : j = a
    · subst hja
      refine .inr ⟨[j], receiver, fuel, Frame.below f .qualifiedReference
        (Frame.verdict f .qualifiedReference (!more) (chain && !more)), true, true, .inl rfl,
        by simpa [Tree.at?] using hreceiver, Confined.node hown ?_⟩
      rw [judgeAll_append]
      exact (Confined.refl _ _).append (hsel hak)
    · by_cases hjk : j = k
      · subst hjk
        refine .inr ⟨[j], nav, fuel + 2, Frame.below f .qualifiedReference
          (Frame.verdict f .qualifiedReference (!more) (chain && !more)), true, false, .inl rfl,
          by simpa [Tree.at?] using hnav, Confined.node hown ?_⟩
        rw [judgeAll_append, shape_navigationSuffix hnavk]
        exact (hrecv hja).append (Confined.refl _ _)
      · refine .inl (Confined.node hown ?_)
        rw [judgeAll_append]
        exact (hrecv hja).append (hsel hjk)

mutual

/-- Every navigation of a tree starts with its receiver, as the grammar builds them. -/
def receiversFirst : Syntax → Bool
  | .node kind field span children =>
    startsWithReceiver (.node kind field span children) && receiversFirstAll children

/-- Every navigation of the trees starts with its receiver. -/
def receiversFirstAll : List Syntax → Bool
  | [] => true
  | t :: ts => receiversFirst t && receiversFirstAll ts

end

theorem startsWithReceiver_of_receiversFirst {t : Syntax} (h : receiversFirst t = true) :
    startsWithReceiver t = true := by
  obtain ⟨kind, field, span, children⟩ := t
  simp only [receiversFirst, Bool.and_eq_true] at h
  exact h.1

theorem receiversFirst_child {t c : Syntax} {i : Nat} (h : receiversFirst t = true)
    (hc : t.children[i]? = some c) : receiversFirst c = true := by
  obtain ⟨kind, field, span, children⟩ := t
  simp only [receiversFirst, Bool.and_eq_true] at h
  have hall : ∀ (ts : List Syntax) (i : Nat), receiversFirstAll ts = true → ts[i]? = some c →
      receiversFirst c = true := by
    intro ts
    induction ts with
    | nil => simp
    | cons t ts ih =>
      intro i h hc
      simp only [receiversFirstAll, Bool.and_eq_true] at h
      cases i with
      | zero =>
        simp only [List.getElem?_cons_zero, Option.some.injEq] at hc
        exact hc ▸ h.1
      | succ i => exact ih i h.2 (by simpa using hc)
  exact hall children i h.2 hc

theorem receiversFirst_at : ∀ {t u : Syntax} (q : List Nat), receiversFirst t = true →
    t.at? q = some u → receiversFirst u = true
  | t, u, [], h, hq => by
    simp only [Tree.at?, Option.some.injEq] at hq
    exact hq ▸ h
  | t, u, i :: q, h, hq => by
    simp only [Tree.at?] at hq
    cases hc : t.children[i]? with
    | none => simp [hc] at hq
    | some c =>
      rw [hc, Option.bind_some] at hq
      exact receiversFirst_at q (receiversFirst_child h hc) hq

/-- The nodes lowered for a tree that lie at or below the position of one of its subtrees are
nodes lowered for that subtree, in some frame. This needs every navigation to start with its
receiver, and the subtree not to be a navigation: a call on a navigation lowers the
navigation's receiver and not the navigation. -/
theorem confined_at {q : List Nat} {t e : Syntax} (ht : receiversFirst t = true)
    (he : t.at? q = some e) (hk : e.kind ≠ .navigationExpression) (fuel : Nat) (p : List Nat)
    (f : Option Shape.Frame) (chain more : Bool) :
    ∃ fuel' f' chain' more', Confined (judgeAll f chain more (shape fuel p t))
      (judgeAll f' chain' more' (shape fuel' (p ++ q) e)) (p ++ q) := by
  obtain ⟨n, hn⟩ : ∃ n, q.length < n := ⟨q.length + 1, Nat.lt_succ_self _⟩
  -- induction on a bound of the position's length: a step may descend two levels
  induction n generalizing q t fuel p f chain more with
  | zero => exact absurd hn (Nat.not_lt_zero _)
  | succ n ih =>
    cases q with
    | nil =>
      simp only [Tree.at?, Option.some.injEq] at he
      subst he
      exact ⟨fuel, f, chain, more, by simpa using Confined.refl _ _⟩
    | cons j q =>
      cases fuel with
      | zero => exact ⟨0, f, chain, more, Confined.of_tags (by simp [shape, tagsAll])⟩
      | succ fuel =>
        have hpj : p ++ [j] <+: p ++ j :: q := ⟨q, by simp⟩
        rcases confined_step (shape_step fuel p t) (startsWithReceiver_of_receiversFirst ht) f
          chain more j with h | ⟨r, u, fuel', f', chain', more', hr, hu, h⟩
        · exact ⟨0, f, chain, more, (h.of_prefix hpj).of_nil⟩
        · rcases hr with rfl | ⟨b, rfl, hnav⟩
          · have hue : u.at? q = some e := by
              rw [show j :: q = [j] ++ q from rfl, Tree.at?_append, hu, Option.bind_some] at he
              exact he
            obtain ⟨fuel'', f'', chain'', more'', h'⟩ :=
              ih (receiversFirst_at [j] ht hu) hue fuel' (p ++ [j]) f' chain' more'
                (by simpa using hn)
            exact ⟨fuel'', f'', chain'', more'', (h.of_prefix hpj).trans (by simpa using h')⟩
          · cases q with
            | nil =>
              simp only [Tree.at?] at he hu
              cases hc : t.children[j]? with
              | none => simp [hc] at he
              | some c =>
                simp only [hc, Option.bind_some, Option.some.injEq] at he
                simp only [hc, Option.map_some, Option.some.injEq] at hnav
                exact absurd (he ▸ hnav) hk
            | cons b' q =>
              by_cases hb : b' = b
              · subst hb
                have hue : u.at? q = some e := by
                  rw [show j :: b' :: q = [j, b'] ++ q from rfl, Tree.at?_append, hu,
                    Option.bind_some] at he
                  exact he
                obtain ⟨fuel'', f'', chain'', more'', h'⟩ :=
                  ih (receiversFirst_at [j, b'] ht hu) hue fuel' (p ++ [j, b']) f' chain' more'
                    (by simp at hn ⊢; omega)
                exact ⟨fuel'', f'', chain'', more'', (h.of_prefix hpj).trans (by simpa using h')⟩
              · -- the receiver's nodes lie below another child of the callee
                refine ⟨0, f, chain, more, Confined.of_nil fun y hy hq => (hb ?_).elim⟩
                have hy' := h y hy (hpj.trans hq)
                have hrecv := tags_shape fuel' (p ++ [j, b]) u y.2.1 (tag_mem_of_mem_judgeAll hy')
                have hq' : p ++ [j, b'] <+: y.2.1 := (List.IsPrefix.trans ⟨q, by simp⟩ hq)
                exact index_eq_of_below (p := p ++ [j]) (by simpa using hq') (by simpa using hrecv)

end Kotlin

end ResultLint
