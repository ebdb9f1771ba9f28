import ResultLint.Proofs.Kotlin.Subtrees

/-!
# How values flow out of Kotlin's `if`, `when` and `try`

In Kotlin `if`, `when` and `try` are expressions: the value of a braced branch is its last
statement. The usage walk reads this off the lowered tree: statements become a block, whose last
expression takes the verdict of what the block belongs to, and bodies and call suffixes add no
node. So a call written as the last statement of a braced branch of such an expression (a body
of an `if`, the body of a `when` entry, the block of a `try`, or the block of one of its `catch`
or `finally` clauses) is discarded exactly when the expression is (`value_flows_through_branches`).

This holds of `finally` too: its block belongs to a clause of the `try`, which hands on the
`try`'s verdict, so a call ending it is not discarded when the `try`'s value is used
(`finally_tail_used`). And an `if` standing as the `else` of another is used by it, whatever the
outer one's fate, so the branches of an `else if` end in used values.
-/

namespace ResultLint
namespace Kotlin

open Shape

/-- `s`, at `r` below `e`, holds the braces of a branch of `e`: a braced body of an `if`, the
braced body of a `when` entry, the block of a `try`, or the block of one of its `catch` or
`finally` clauses. -/
inductive BracedBranch : Syntax → List Nat → Syntax → Prop
  | ifBody {e b s : Syntax} {i m : Nat} : e.kind = .ifExpression → e.children[i]? = some b →
      b.kind = .controlStructureBody → b.children[m]? = some s → s.kind = .statements →
      BracedBranch e [i, m] s
  | whenBody {e w b s : Syntax} {i m n : Nat} : e.kind = .whenExpression →
      e.children[i]? = some w → w.kind = .whenEntry → w.children[m]? = some b →
      b.kind = .controlStructureBody → b.children[n]? = some s → s.kind = .statements →
      BracedBranch e [i, m, n] s
  | tryBlock {e s : Syntax} {i : Nat} : e.kind = .tryExpression → e.children[i]? = some s →
      s.kind = .statements → BracedBranch e [i] s
  | handlerBlock {e h s : Syntax} {i m : Nat} : e.kind = .tryExpression →
      e.children[i]? = some h → (h.kind = .catchBlock ∨ h.kind = .finallyBlock) →
      h.children[m]? = some s → s.kind = .statements → BracedBranch e [i, m] s

/-- The `i`-th child of `s` is its last statement: only keywords follow it. -/
def IsLastStatement (s : Syntax) (i : Nat) : Prop :=
  ∃ u, s.children[i]? = some u ∧ u.kind ≠ .keyword ∧
    ∀ v ∈ s.children.drop (i + 1), v.kind = .keyword

/-- The positions in the tree of the syntax nodes the arena nodes of a lowered tree were made
for, by index. -/
def origins (root : Syntax) : List (List Nat) := tagsAll (shape (3 * root.size) [] root)

/-! ## Verdicts of a few forms -/

theorem Frame.verdict_last_in_block {g : Shape.Frame} (hg : g.kind = .expression ∨ g.kind = .other)
    (d : Bool) {k : NodeKind} (hk : k.isExpression = true) :
    Frame.verdict (Frame.below (some g) .block d) k true false = g.discarded := by
  rcases hg with hg | hg <;> simp [Frame.verdict, Frame.below, hk, hg]

theorem shape_dropped {t : Syntax} (h : role t.kind = .dropped) (fuel : Nat) (p : List Nat) :
    shape fuel p t = [] := by
  cases fuel with
  | zero => rfl
  | succ fuel =>
    obtain ⟨kind, field, span, children⟩ := t
    simp only [Tree.kind] at h
    simp only [shape, h]

theorem shapeAll_keywords : ∀ (fuel : Nat) (p : List Nat) (i : Nat) (ts : List Syntax),
    (∀ v ∈ ts, v.kind = .keyword) → shapeAll fuel p i ts = []
  | 0, _, _, _, _ => by rw [shapeAll]
  | _ + 1, _, _, [], _ => by rw [shapeAll]
  | fuel + 1, p, i, n :: rest, h => by
    rw [shapeAll, shape_dropped (by rw [h n (by simp)]; rfl),
      shapeAll_keywords fuel p (i + 1) rest fun v hv => h v (by simp [hv])]
    rfl

theorem ne_of_below {p x : List Nat} {j : Nat} (h : p ++ [j] <+: x) : x ≠ p :=
  fun hx => not_append_prefix_self p j (hx ▸ h)

theorem call_verdict_at_root {fuel : Nat} {p : List Nat} {t : Syntax}
    {F : List (Shape (List Nat))} (hs : Step fuel p t F) (f : Option Shape.Frame)
    (chain more : Bool) {y : NodeKind × List Nat × Bool} (hy : y ∈ judgeAll f chain more F)
    (hyp : y.2.1 = p) (hyc : y.1 = .call) :
    ∃ k, k.isExpression = true ∧ y.2.2 = Frame.verdict f k (!more) (chain && !more) := by
  have hsuffix : ∀ {S f' chain' more'}, SuffixShape fuel p t S → y ∈ judgeAll f' chain' more' S →
      False := by
    intro S f' chain' more' hS hyS
    cases hS with
    | none => simp [judgeAll] at hyS
    | @some k s _ _ =>
      exact ne_of_below
        (tags_shapeAll_below fuel (p ++ [k]) 0 s.children _ (tag_mem_of_mem_judgeAll hyS)) hyp
  cases hs with
  | dropped => simp [judgeAll] at hy
  | transparent _ =>
    obtain ⟨j, -, hj⟩ := tags_shapeAll fuel p 0 t.children _ (tag_mem_of_mem_judgeAll hy)
    exact absurd hyp (ne_of_below hj)
  | @node k fuel' _ hkc _ =>
    rw [judgeAll_node, List.mem_cons] at hy
    rcases hy with rfl | hy
    · exact absurd hyc hkc
    · obtain ⟨j, -, hj⟩ := tags_shapeAll fuel' p 0 t.children _ (tag_mem_of_mem_judgeAll hy)
      exact absurd hyp (ne_of_below hj)
  | call hS =>
    rw [judgeAll_node, List.mem_cons] at hy
    rcases hy with rfl | hy
    · exact ⟨.call, rfl, rfl⟩
    · exact (hsuffix hS hy).elim
  | @callChain S a b callee receiver _ _ _ hS =>
    rw [judgeAll_node, List.mem_cons] at hy
    rcases hy with rfl | hy
    · cases hyc
    · rw [judgeAll_append, List.mem_append] at hy
      rcases hy with hy | hy
      · have hr := tags_shape fuel (p ++ [a, b]) receiver _ (tag_mem_of_mem_judgeAll hy)
        exact absurd hyp (ne_of_below (isPrefix_of_append (q := [b]) (by simpa using hr)))
      · rw [judgeAll_node, List.mem_cons] at hy
        rcases hy with rfl | hy
        · exact ⟨.qualifiedReference, rfl, by simp [Frame.verdict, Frame.below]⟩
        · exact (hsuffix hS hy).elim
  | @navigation a k receiver nav _ _ _ _ _ =>
    rw [judgeAll_node, List.mem_cons] at hy
    rcases hy with rfl | hy
    · cases hyc
    · rw [judgeAll_append, List.mem_append] at hy
      rcases hy with hy | hy
      · exact absurd hyp (ne_of_below
          (tags_shape fuel (p ++ [a]) receiver _ (tag_mem_of_mem_judgeAll hy)))
      · rw [judgeAll_node, List.mem_cons] at hy
        rcases hy with rfl | hy
        · cases hyc
        · exact absurd hyp (ne_of_below
            (tags_shapeAll_below fuel (p ++ [k]) 0 nav.children _ (tag_mem_of_mem_judgeAll hy)))

section Descent

variable {fuel : Nat} {q : List Nat} {u : Syntax} {f : Option Shape.Frame} {chain more : Bool}
  {y : NodeKind × List Nat × Bool}

theorem mem_shape_plain (hr : role u.kind = .plain)
    (hy : y ∈ judgeAll f chain more (shape fuel q u)) :
    y = (plainKind u.kind, q, Frame.verdict f (plainKind u.kind) (!more) (chain && !more)) ∨
      ∃ fuel', y ∈ judgeAll (Frame.below f (plainKind u.kind)
        (Frame.verdict f (plainKind u.kind) (!more) (chain && !more)))
        (plainKind u.kind == .qualifiedReference) false (shapeAll fuel' q 0 u.children) := by
  cases fuel with
  | zero => simp [shape, judgeAll] at hy
  | succ fuel =>
    rw [shape_plain hr] at hy
    cases fuel with
    | zero => simp [shapePlain, judgeAll] at hy
    | succ fuel =>
      rw [shapePlain, judgeAll_node, List.mem_cons] at hy
      exact hy.imp id fun h => ⟨fuel, h⟩

theorem verdict_plain_root (hr : role u.kind = .plain)
    (hy : y ∈ judgeAll f chain more (shape fuel q u)) (hyq : y.2.1 = q) :
    y.2.2 = Frame.verdict f (plainKind u.kind) (!more) (chain && !more) := by
  rcases mem_shape_plain hr hy with rfl | ⟨fuel', hy⟩
  · rfl
  · obtain ⟨j, -, hj⟩ := tags_shapeAll fuel' q 0 u.children _ (tag_mem_of_mem_judgeAll hy)
    exact absurd hyq (ne_of_below hj)

theorem mem_plain_child (hr : role u.kind = .plain)
    (hy : y ∈ judgeAll f chain more (shape fuel q u)) {j : Nat} (hyj : q ++ [j] <+: y.2.1) :
    ∃ fuel' v, u.children[j]? = some v ∧
      y ∈ judgeAll (Frame.below f (plainKind u.kind)
        (Frame.verdict f (plainKind u.kind) (!more) (chain && !more))) false
        (!(shapeAll fuel' q (j + 1) (u.children.drop (j + 1))).isEmpty)
        (shape fuel' (q ++ [j]) v) := by
  rcases mem_shape_plain hr hy with rfl | ⟨fuel, hy⟩
  · exact absurd rfl (ne_of_below hyj)
  · rcases confined_shapeAll _ _ false fuel q 0 u.children j with h | ⟨fuel', v, hv, -, h⟩
    · exact absurd (h y hy hyj) List.not_mem_nil
    · exact ⟨fuel', v, by simpa using hv,
        by simpa [beq_false_of_ne (plainKind_ne u.kind).1] using h y hy hyj⟩

theorem mem_transparent_child (hr : role u.kind = .transparent)
    (hy : y ∈ judgeAll f chain more (shape fuel q u)) {j : Nat} (hyj : q ++ [j] <+: y.2.1) :
    ∃ fuel' v more', u.children[j]? = some v ∧
      y ∈ judgeAll f chain more' (shape fuel' (q ++ [j]) v) := by
  cases fuel with
  | zero => simp [shape, judgeAll] at hy
  | succ fuel =>
    rw [shape_transparent hr] at hy
    rcases confined_shapeAll f chain more fuel q 0 u.children j with h | ⟨fuel', v, hv, -, h⟩
    · exact absurd (h y hy hyj) List.not_mem_nil
    · exact ⟨fuel', v, _, by simpa using hv, h y hy hyj⟩

end Descent

/-- A call that is the last statement of a block takes the verdict of what the block belongs to,
an expression or a clause. -/
theorem last_statement_verdict {s : Syntax} {i : Nat} (hs : s.kind = .statements)
    (hi : IsLastStatement s i) {g : Shape.Frame} (hg : g.kind = .expression ∨ g.kind = .other)
    {fuel : Nat} {q : List Nat} {chain more : Bool} {z : NodeKind × List Nat × Bool}
    (hz : z ∈ judgeAll (some g) chain more (shape fuel q s)) (hzq : z.2.1 = q ++ [i])
    (hzc : z.1 = .call) : z.2.2 = g.discarded := by
  obtain ⟨-, -, -, hrest⟩ := hi
  have hr : role s.kind = .plain := by rw [hs]; rfl
  obtain ⟨fuel', u, -, hz⟩ :=
    mem_plain_child hr hz (show q ++ [i] <+: z.2.1 from hzq ▸ List.prefix_refl _)
  -- only keywords follow the statement, so it is the block's last child
  rw [shapeAll_keywords _ _ _ _ hrest] at hz
  cases fuel' with
  | zero => simp [shape, judgeAll] at hz
  | succ fuel' =>
    obtain ⟨k, hk, hv⟩ := call_verdict_at_root (shape_step fuel' (q ++ [i]) u) _ _ _ hz hzq hzc
    rw [hv, hs]
    exact Frame.verdict_last_in_block hg _ hk

/-! ## Branches of one expression -/

theorem role_of_bracedBranch {e s : Syntax} {r : List Nat} (hb : BracedBranch e r s) :
    role e.kind = .plain ∧ plainKind e.kind = .expression := by
  cases hb with
  | ifBody he | whenBody he | tryBlock he | handlerBlock he => rw [he]; exact ⟨rfl, rfl⟩

/-- Among the nodes lowered for an `if`, `when` or `try`, a call made for the last statement of
one of its braced branches has the verdict of the expression's own node. -/
theorem branch_tail_verdict {e s : Syntax} {r : List Nat} {i : Nat} (hb : BracedBranch e r s)
    (hi : IsLastStatement s i) {fuel : Nat} {p : List Nat} {f : Option Shape.Frame}
    {chain more : Bool} {y z : NodeKind × List Nat × Bool}
    (hy : y ∈ judgeAll f chain more (shape fuel p e)) (hyp : y.2.1 = p)
    (hz : z ∈ judgeAll f chain more (shape fuel p e)) (hzp : z.2.1 = p ++ r ++ [i])
    (hzc : z.1 = .call) : z.2.2 = y.2.2 := by
  obtain ⟨he, hek⟩ := role_of_bracedBranch hb
  rw [verdict_plain_root he hy hyp]
  -- descend from the expression to the block, through the clause or entry holding it
  cases hb with
  | @ifBody b _ j m _ hb hbk hs hsk =>
    obtain ⟨_, b', hb', hz⟩ := mem_plain_child he hz
      (show p ++ [j] <+: z.2.1 by rw [hzp]; exact ⟨[m, i], by simp⟩)
    rw [hb] at hb'
    cases hb'
    obtain ⟨_, s', _, hs', hz⟩ := mem_transparent_child (by rw [hbk]; rfl) hz
      (show p ++ [j] ++ [m] <+: z.2.1 by rw [hzp]; exact ⟨[i], by simp⟩)
    rw [hs] at hs'
    cases hs'
    exact last_statement_verdict hsk hi (.inl hek) hz (by simp [hzp]) hzc
  | @whenBody w b _ j m n _ hw hwk hb hbk hs hsk =>
    obtain ⟨_, w', hw', hz⟩ := mem_plain_child he hz
      (show p ++ [j] <+: z.2.1 by rw [hzp]; exact ⟨[m, n, i], by simp⟩)
    rw [hw] at hw'
    cases hw'
    obtain ⟨_, b', hb', hz⟩ := mem_plain_child (by rw [hwk]; rfl) hz
      (show p ++ [j] ++ [m] <+: z.2.1 by rw [hzp]; exact ⟨[n, i], by simp⟩)
    rw [hb] at hb'
    cases hb'
    obtain ⟨_, s', _, hs', hz⟩ := mem_transparent_child (by rw [hbk]; rfl) hz
      (show p ++ [j] ++ [m] ++ [n] <+: z.2.1 by rw [hzp]; exact ⟨[i], by simp⟩)
    rw [hs] at hs'
    cases hs'
    rw [last_statement_verdict hsk hi (.inr (by rw [hwk]; rfl)) hz (by simp [hzp]) hzc, hwk]
    simp [Frame.verdict, Frame.below, plainKind, NodeKind.isExpression]
  | @tryBlock _ j _ hs hsk =>
    obtain ⟨_, s', hs', hz⟩ := mem_plain_child he hz
      (show p ++ [j] <+: z.2.1 by rw [hzp]; exact ⟨[i], by simp⟩)
    rw [hs] at hs'
    cases hs'
    exact last_statement_verdict hsk hi (.inl hek) hz (by simp [hzp]) hzc
  | @handlerBlock h _ j m _ hh hhk hs hsk =>
    obtain ⟨_, h', hh', hz⟩ := mem_plain_child he hz
      (show p ++ [j] <+: z.2.1 by rw [hzp]; exact ⟨[m, i], by simp⟩)
    rw [hh] at hh'
    cases hh'
    have hhr : role h.kind = .plain ∧ plainKind h.kind = .other := by
      rcases hhk with hhk | hhk <;> rw [hhk] <;> exact ⟨rfl, rfl⟩
    obtain ⟨_, s', hs', hz⟩ := mem_plain_child hhr.1 hz
      (show p ++ [j] ++ [m] <+: z.2.1 by rw [hzp]; exact ⟨[i], by simp⟩)
    rw [hs] at hs'
    cases hs'
    rw [last_statement_verdict hsk hi (.inr hhr.2) hz (by simp [hzp]) hzc, hhr.2]
    simp [Frame.verdict, Frame.below, NodeKind.isExpression]

theorem nested_if_verdict {e b e' : Syntax} {k m : Nat} (he : e.kind = .ifExpression)
    (hb : e.children[k]? = some b) (hbk : b.kind = .controlStructureBody)
    (he' : b.children[m]? = some e') (he'k : e'.kind = .ifExpression) {fuel : Nat}
    {p : List Nat} {f : Option Shape.Frame} {chain more : Bool} {y : NodeKind × List Nat × Bool}
    (hy : y ∈ judgeAll f chain more (shape fuel p e)) (hyp : y.2.1 = p ++ [k, m]) :
    y.2.2 = false := by
  obtain ⟨_, b', hb', hy⟩ := mem_plain_child (by rw [he]; rfl) hy
    (show p ++ [k] <+: y.2.1 by rw [hyp]; exact ⟨[m], by simp⟩)
  rw [hb] at hb'
  cases hb'
  obtain ⟨_, e'', _, he'', hy⟩ := mem_transparent_child (by rw [hbk]; rfl) hy
    (show p ++ [k] ++ [m] <+: y.2.1 by rw [hyp]; exact ⟨[], by simp⟩)
  rw [he'] at he''
  cases he''
  rw [verdict_plain_root (by rw [he'k]; rfl) hy (by simp [hyp]), he, he'k]
  simp [Frame.verdict, Frame.below, plainKind, NodeKind.isExpression]

/-! ## The lowered tree -/

/-- The verdicts the usage walk gives the branches of a lowered Kotlin tree: a call made for the
last statement of a braced branch of an `if`, `when` or `try` has the verdict of the node made for
the expression, and an `if` in a body of another `if` is used. Nodes are named by the positions
in the tree of the syntax they were made for (`origins`). -/
structure BranchVerdicts (root : Syntax) (u : SourceUnit) : Prop where
  tail : ∀ (pE r : List Nat) (e s : Syntax) (i : Nat) (c : CallSite) (n : Nat),
    root.at? pE = some e → BracedBranch e r s → IsLastStatement s i → c ∈ u.calls.toList →
    (origins root)[c.node]? = some (pE ++ r ++ [i]) → (origins root)[n]? = some pE →
    u.tree.isValueDiscarded c.node = u.tree.isValueDiscarded n
  nestedIf : ∀ (pE : List Nat) (e b e' : Syntax) (k m n : Nat),
    root.at? pE = some e → e.kind = .ifExpression → e.children[k]? = some b →
    b.kind = .controlStructureBody → b.children[m]? = some e' → e'.kind = .ifExpression →
    (origins root)[n]? = some (pE ++ [k, m]) → u.tree.isValueDiscarded n = false

/-- A lowered Kotlin tree whose navigations start with their receivers, as the grammar's do,
passes values out of its branches as `BranchVerdicts` says. -/
theorem value_flows_through_branches (path text : String) (root : Syntax)
    (hroot : receiversFirst root = true) :
    BranchVerdicts root (SourceUnit.ofKotlinTree path text root) := by
  obtain ⟨hs, hc⟩ := ofKotlinTree_layout path text root
  constructor
  · intro pE r e s i c n he hb hi hcall hco hno
    obtain ⟨kc, hkc, hz⟩ := Arena.mem_judgeAll_of_tag hs hco
    obtain ⟨_, -, hy⟩ := Arena.mem_judgeAll_of_tag hs hno
    have hkind : kc = .call := by
      have hmem : c.node ∈ callPositions 0 (entriesAll 0 none (shape (3 * root.size) [] root)) := by
        rw [← hc]
        exact List.mem_map_of_mem hcall
      obtain ⟨-, hk⟩ := call_of_mem_callPositions hmem
      rw [Nat.sub_zero, hkc] at hk
      exact Option.some.inj hk
    have hnav : e.kind ≠ .navigationExpression := fun h => by
      have hr := (role_of_bracedBranch hb).1
      rw [h] at hr
      cases hr
    obtain ⟨fuel', f', chain', more', hconf⟩ :=
      confined_at hroot he hnav (3 * root.size) [] none false false
    rw [List.nil_append] at hconf
    exact branch_tail_verdict hb hi (hconf _ hy (List.prefix_refl pE)) rfl
      (hconf _ hz ⟨r ++ [i], by simp⟩) (by simp) hkind
  · intro pE e b e' k m n he hek hb hbk he' he'k hno
    obtain ⟨_, -, hy⟩ := Arena.mem_judgeAll_of_tag hs hno
    obtain ⟨fuel', f', chain', more', hconf⟩ :=
      confined_at hroot he (by rw [hek]; decide) (3 * root.size) [] none false false
    rw [List.nil_append] at hconf
    exact nested_if_verdict hek hb hbk he' he'k (hconf _ hy ⟨[k, m], rfl⟩) rfl

/-- The text of a function whose `try` has a `finally` block ending in a call, the `try`'s value
kept in a variable. -/
def finallyText : String :=
  "fun f() \x7b\n  val r = try \x7b a() \x7d finally \x7b c() \x7d\n\x7d\n"

/-- The syntax tree of `finallyText`. -/
def finallyTree : Syntax :=
  .node .sourceFile none ⟨0, 50⟩ [.node .functionDeclaration none ⟨0, 49⟩ [
    .node .simpleIdentifier none ⟨4, 5⟩ [],
    .node .functionValueParameters none ⟨5, 7⟩ [],
    .node .functionBody none ⟨8, 49⟩ [.node .statements none ⟨12, 47⟩ [
      .node .propertyDeclaration none ⟨12, 47⟩ [
        .node .bindingPatternKind none ⟨12, 15⟩ [],
        .node .variableDeclaration none ⟨16, 17⟩ [.node .simpleIdentifier none ⟨16, 17⟩ []],
        .node .tryExpression none ⟨20, 47⟩ [
          .node .statements none ⟨26, 29⟩ [.node .callExpression none ⟨26, 29⟩ [
            .node .simpleIdentifier none ⟨26, 27⟩ [],
            .node .callSuffix none ⟨27, 29⟩ [.node .valueArguments none ⟨27, 29⟩ []]]],
          .node .finallyBlock none ⟨32, 47⟩ [.node .statements none ⟨42, 45⟩ [
            .node .callExpression none ⟨42, 45⟩ [
              .node .simpleIdentifier none ⟨42, 43⟩ [],
              .node .callSuffix none ⟨43, 45⟩ [.node .valueArguments none ⟨43, 45⟩ []]]]]]]]]]]

theorem finally_tree_branch_verdicts :
    receiversFirst finallyTree = true ∧
      BranchVerdicts finallyTree (SourceUnit.ofKotlinTree "A.kt" finallyText finallyTree) :=
  ⟨by decide, value_flows_through_branches "A.kt" finallyText finallyTree (by decide)⟩

/-- A call ending a `finally` block is used when the `try`'s value is: it takes the `try`'s
verdict, as the call ending the `try` block does. -/
theorem finally_tail_used :
    SourceUnit.callVerdicts (SourceUnit.ofKotlinTree "A.kt" finallyText finallyTree) =
      [false, false] := by
  obtain ⟨hs, hc⟩ := ofKotlinTree_layout "A.kt" finallyText finallyTree
  rw [SourceUnit.callVerdicts, ← Function.comp_def, ← List.map_map, hc,
    Arena.discarded_callPositions hs]
  decide

end Kotlin
end ResultLint
