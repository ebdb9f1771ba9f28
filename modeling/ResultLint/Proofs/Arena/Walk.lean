import ResultLint.Arena.Usage

/-!
# One step of the usage walk

The walk that decides whether a value is discarded climbs from a node to the nearest expression,
out of the chains it is the selector of, and from the last value of a block to the block's
owner. Each move is stated here as an equation between the verdict of a node and the verdict of
its parent or of its block's owner, on every arena:

* a node of no expression kind takes its parent's verdict (`isValueDiscarded_of_not_expression`);
* the selector of a chain takes the chain's verdict (`isValueDiscarded_of_selector`);
* any other expression is judged by its place under its parent (`isValueDiscarded_of_place`).

Later proofs follow a lowered tree from the top with these equations and never unfold the walk.
Two consequences hold on every arena: a chain of any length is judged on its outermost link while
its receivers are used (`chain_judged_on_outermost_link`), and the last value of a block flows to
the block's owner unless a method, constructor or initializer owns it
(`block_tail_flows_to_owner`).
-/

namespace ResultLint
namespace Arena

variable (a : Arena)

/-- The verdict the place of `top` under its parent `p` gives a value: a block keeps only its
last value and passes it on to the block's owner, a constructor discards, anything else uses. -/
def placeVerdict (p top : Nat) : Bool :=
  match a.kindOf p with
  | .block =>
    match a.parentOf p with
    | none => true
    | some o =>
      if a.kindOf o = .lambda then false
      else if !a.isLastChild p top then true
      else
        match a.kindOf o with
        | .callable _ | .classInitializer => true
        | _ => a.isValueDiscarded o
  | .callable true => true
  | _ => false

variable {a}

theorem nearestExpression_le {i e : Nat} (h : a.nearestExpression i = some e) : e ≤ i := by
  fun_induction a.nearestExpression i with
  | case1 => cases h; exact Nat.le_refl _
  | case2 i _ _ => cases h
  | case3 i _ p hp ih => exact Nat.le_of_lt (Nat.lt_of_le_of_lt (ih h) (parentOf_lt hp))

theorem chainTop_spec {e top p : Nat} (h : a.chainTop e = (top, some p)) :
    a.parentOf top = some p ∧ top ≤ e := by
  fun_induction a.chainTop e with
  | case1 => cases h
  | case2 e q hq _ ih =>
    obtain ⟨h1, h2⟩ := ih h
    exact ⟨h1, Nat.le_of_lt (Nat.lt_of_le_of_lt h2 (parentOf_lt hq))⟩
  | case3 e q hq _ => cases h; exact ⟨hq, Nat.le_refl _⟩

theorem isValueDiscarded_eq (start : Nat) :
    a.isValueDiscarded start =
      match a.nearestExpression start with
      | none => true
      | some e =>
        match a.chainTop e with
        | (_, none) => true
        | (top, some p) => a.placeVerdict p top := by
  rw [isValueDiscarded]
  cases he : a.nearestExpression start with
  | none => rfl
  | some e =>
    rcases hc : a.chainTop e with ⟨top, _ | p⟩
    · simp only [hc]
    · obtain ⟨htop, hle⟩ := chainTop_spec hc
      have hp : p < start :=
        Nat.lt_of_lt_of_le (parentOf_lt htop) (Nat.le_trans hle (nearestExpression_le he))
      simp only [hc, placeVerdict]
      cases hk : a.kindOf p with
      | block =>
        cases ho : a.parentOf p with
        | none => rfl
        | some o =>
          have hop : o < start := Nat.lt_trans (parentOf_lt ho) hp
          cases hko : a.kindOf o <;> simp [hop, hko]
      | callable c => cases c <;> rfl
      | _ => rfl


theorem nearestExpression_of_expression {i : Nat} (hk : (a.kindOf i).isExpression = true) :
    a.nearestExpression i = some i := by
  rw [nearestExpression]; simp [hk]

theorem nearestExpression_of_not_expression {i : Nat} (hk : (a.kindOf i).isExpression = false) :
    a.nearestExpression i = (a.parentOf i).bind a.nearestExpression := by
  rw [nearestExpression]
  simp only [hk, Bool.false_eq_true, if_false]
  split <;> simp_all

theorem chainTop_of_parent {e p : Nat} (hp : a.parentOf e = some p) :
    a.chainTop e =
      if a.kindOf p = .qualifiedReference ∧ a.selectorOf p = some e then a.chainTop p
      else (e, some p) := by
  rw [chainTop]
  split <;> simp_all

theorem chainTop_of_root {e : Nat} (hp : a.parentOf e = none) : a.chainTop e = (e, none) := by
  rw [chainTop]
  split <;> simp_all

/-- A node of no expression kind takes the verdict of its parent, and a root of no expression
kind is discarded. -/
theorem isValueDiscarded_of_not_expression {i : Nat} (hk : (a.kindOf i).isExpression = false) :
    a.isValueDiscarded i = ((a.parentOf i).map a.isValueDiscarded).getD true := by
  cases hp : a.parentOf i with
  | none =>
    rw [isValueDiscarded_eq, nearestExpression_of_not_expression hk, hp]
    rfl
  | some p =>
    simp only [Option.map_some, Option.getD_some]
    rw [isValueDiscarded_eq i, isValueDiscarded_eq p, nearestExpression_of_not_expression hk, hp]
    rfl

theorem isValueDiscarded_of_root {i : Nat} (hk : (a.kindOf i).isExpression = true)
    (hp : a.parentOf i = none) : a.isValueDiscarded i = true := by
  simp only [isValueDiscarded_eq, nearestExpression_of_expression hk, chainTop_of_root hp]

/-- The selector of a chain takes the verdict of the chain. -/
theorem isValueDiscarded_of_selector {i p : Nat} (hk : (a.kindOf i).isExpression = true)
    (hp : a.parentOf i = some p) (hq : a.kindOf p = .qualifiedReference)
    (hs : a.selectorOf p = some i) : a.isValueDiscarded i = a.isValueDiscarded p := by
  have hkp : (a.kindOf p).isExpression = true := by rw [hq]; rfl
  simp only [isValueDiscarded_eq, nearestExpression_of_expression hk,
    nearestExpression_of_expression hkp, chainTop_of_parent hp, hq, hs, and_self, if_true]

/-- Any other expression is judged by its place under its parent. -/
theorem isValueDiscarded_of_place {i p : Nat} (hk : (a.kindOf i).isExpression = true)
    (hp : a.parentOf i = some p)
    (hs : ¬ (a.kindOf p = .qualifiedReference ∧ a.selectorOf p = some i)) :
    a.isValueDiscarded i = a.placeVerdict p i := by
  simp only [isValueDiscarded_eq, nearestExpression_of_expression hk, chainTop_of_parent hp,
    if_neg hs]

theorem getLast?_filter_range {q : Nat → Bool} {i : Nat} : ∀ {n : Nat},
    ((List.range n).filter q).getLast? = some i ↔
      i < n ∧ q i = true ∧ ∀ j, i < j → j < n → q j = false
  | 0 => by simp
  | n + 1 => by
    rw [List.range_succ, List.filter_append]
    by_cases hq : q n = true
    · simp only [List.filter_cons, hq, if_true, List.filter_nil, List.getLast?_append,
        List.getLast?_singleton, Option.some_or, Option.some.injEq]
      constructor
      · rintro rfl; exact ⟨Nat.lt_succ_self _, hq, fun j h1 h2 => absurd h2 (by omega)⟩
      · rintro ⟨h1, -, h3⟩
        rcases Nat.lt_or_ge i n with hlt | hge
        · have : q n = false := h3 n hlt (Nat.lt_succ_self _)
          simp_all
        · omega
    · have hq' : q n = false := by simpa using hq
      simp only [List.filter_cons, hq', Bool.false_eq_true, if_false, List.filter_nil,
        List.append_nil]
      rw [getLast?_filter_range]
      constructor
      · rintro ⟨h1, h2, h3⟩
        refine ⟨by omega, h2, fun j hj1 hj2 => ?_⟩
        rcases Nat.lt_succ_iff_lt_or_eq.mp hj2 with hj | rfl
        · exact h3 j hj1 hj
        · exact hq'
      · rintro ⟨h1, h2, h3⟩
        have : i ≠ n := fun h => by subst h; simp_all
        exact ⟨by omega, h2, fun j hj1 hj2 => h3 j hj1 (by omega)⟩

theorem parentOf_eq_none_of_size_le {i : Nat} (h : a.size ≤ i) : a.parentOf i = none := by
  simp [parentOf, get?, size] at *
  simp [Array.getElem?_eq_none h]

theorem isLastChild_iff {p i : Nat} :
    a.isLastChild p i = true ↔ a.parentOf i = some p ∧ ∀ j, i < j → a.parentOf j ≠ some p := by
  simp only [isLastChild, children, beq_iff_eq, getLast?_filter_range, beq_eq_false_iff_ne, ne_eq]
  constructor
  · rintro ⟨-, h2, h3⟩
    refine ⟨h2, fun j hj => ?_⟩
    by_cases hjs : j < a.size
    · exact h3 j hj hjs
    · rw [parentOf_eq_none_of_size_le (by omega)]; simp
  · rintro ⟨h1, h2⟩
    refine ⟨?_, h1, fun j hj _ => h2 j hj⟩
    rcases Nat.lt_or_ge i a.size with hs | hs
    · exact hs
    · rw [parentOf_eq_none_of_size_le hs] at h1
      cases h1

/-! ## Chains and blocks -/

theorem isValueDiscarded_chainTop {e : Nat} (hk : (a.kindOf e).isExpression = true) :
    a.isValueDiscarded e = a.isValueDiscarded (a.chainTop e).1 := by
  fun_induction a.chainTop e with
  | case1 e hp => rfl
  | case2 e p hp hs ih =>
    -- a chain is itself an expression, so the climb goes on from it
    have hkp : (a.kindOf p).isExpression = true := by rw [hs.1]; rfl
    rw [isValueDiscarded_of_selector hk hp hs.1 hs.2, ih hkp]
  | case3 e p hp hs => rfl

/-- Under a chain `q`, its selector shares the chain's verdict whatever its kind, any other
expression is the receiver and is used, and an expression is judged, through any number of links,
as the outermost link of the chain it ends. -/
theorem chain_judged_on_outermost_link {q s : Nat} (hq : a.kindOf q = .qualifiedReference)
    (hs : a.parentOf s = some q) :
    (a.selectorOf q = some s → a.isValueDiscarded s = a.isValueDiscarded q) ∧
    (a.selectorOf q ≠ some s → (a.kindOf s).isExpression = true → a.isValueDiscarded s = false) ∧
    ((a.kindOf s).isExpression = true →
      a.isValueDiscarded s = a.isValueDiscarded (a.chainTop s).1) := by
  refine ⟨fun hsel => ?_, fun hsel hk => ?_, isValueDiscarded_chainTop⟩
  · -- a selector of no expression kind reaches the chain as its nearest expression
    cases hk : (a.kindOf s).isExpression with
    | true => exact isValueDiscarded_of_selector hk hs hq hsel
    | false => rw [isValueDiscarded_of_not_expression hk, hs]; rfl
  · rw [isValueDiscarded_of_place hk hs (fun h => hsel h.2), placeVerdict, hq]

/-- `a.b().c();` as the one statement of a method body: the method, the body, the chain ending
in `c()`, the chain ending in `b()` with its receiver `a`, then `b()` and `c()`. -/
def nestedChainArena : Arena :=
  let a := (Arena.empty.push (.callable false) none ⟨0, 0⟩).1
  let a := (a.push .block (some 0) ⟨0, 0⟩).1
  let a := (a.push .qualifiedReference (some 1) ⟨0, 0⟩).1
  let a := (a.push .qualifiedReference (some 2) ⟨0, 0⟩).1
  let a := (a.push .expression (some 3) ⟨0, 0⟩).1
  let a := ((a.push .call (some 3) ⟨0, 0⟩).1).setSelector 3 5
  ((a.push .call (some 2) ⟨0, 0⟩).1).setSelector 2 6

/-- The call `b()` in the middle of `a.b().c();` stands under the inner chain. -/
theorem nested_chain_middle_link :
    nestedChainArena.kindOf 3 = .qualifiedReference ∧ nestedChainArena.parentOf 5 = some 3 ∧
    ((nestedChainArena.selectorOf 3 = some 5 →
        nestedChainArena.isValueDiscarded 5 = nestedChainArena.isValueDiscarded 3) ∧
      (nestedChainArena.selectorOf 3 ≠ some 5 → (nestedChainArena.kindOf 5).isExpression = true →
        nestedChainArena.isValueDiscarded 5 = false) ∧
      ((nestedChainArena.kindOf 5).isExpression = true →
        nestedChainArena.isValueDiscarded 5 =
          nestedChainArena.isValueDiscarded (nestedChainArena.chainTop 5).1)) :=
  ⟨by decide, by decide, chain_judged_on_outermost_link (by decide) (by decide)⟩

/-- An expression directly in a block is judged by the block's owner: under a lambda it is used;
a value that is not the block's last is discarded; the last one takes the owner's verdict, except
in the body of a method, constructor or initializer, and in a block with no owner, where it is
discarded. -/
theorem block_tail_flows_to_owner {b e : Nat} (hb : a.kindOf b = .block)
    (he : a.parentOf e = some b) (hk : (a.kindOf e).isExpression = true) :
    (∀ o, a.parentOf b = some o → a.kindOf o ≠ .lambda → (∀ c, a.kindOf o ≠ .callable c) →
      a.kindOf o ≠ .classInitializer →
      a.isValueDiscarded e = if a.isLastChild b e then a.isValueDiscarded o else true) ∧
    (∀ o, a.parentOf b = some o →
      ((∃ c, a.kindOf o = .callable c) ∨ a.kindOf o = .classInitializer) →
      a.isValueDiscarded e = true) ∧
    (a.parentOf b = none → a.isValueDiscarded e = true) := by
  have hv : a.isValueDiscarded e = a.placeVerdict b e :=
    isValueDiscarded_of_place hk he (fun h => by rw [hb] at h; cases h.1)
  refine ⟨fun o ho hl hc hi => ?_, fun o ho hoc => ?_, fun ho => ?_⟩
  · rw [hv, placeVerdict, hb]
    simp only [ho, hl, if_false]
    cases hlast : a.isLastChild b e with
    | false => rfl
    | true =>
      cases hko : a.kindOf o with
      | callable c => exact absurd hko (hc c)
      | classInitializer => exact absurd hko hi
      | _ => rfl
  · rw [hv, placeVerdict, hb]
    simp only [ho]
    rcases hoc with ⟨c, hko⟩ | hko <;> cases a.isLastChild b e <;> simp [hko]
  · rw [hv, placeVerdict, hb]
    simp only [ho]

/-- A method body holding `if (x) { foo() }` as a statement and `val y = if (x) { bar() }`: the
method, the body, the first `if` with its branch and `foo()`, then the property, the second `if`
with its branch and `bar()`. -/
def valueBranchArena : Arena :=
  let a := (Arena.empty.push (.callable false) none ⟨0, 0⟩).1
  let a := (a.push .block (some 0) ⟨0, 0⟩).1
  let a := (a.push .expression (some 1) ⟨0, 0⟩).1
  let a := (a.push .block (some 2) ⟨0, 0⟩).1
  let a := (a.push .call (some 3) ⟨0, 0⟩).1
  let a := (a.push .other (some 1) ⟨0, 0⟩).1
  let a := (a.push .expression (some 5) ⟨0, 0⟩).1
  let a := (a.push .block (some 6) ⟨0, 0⟩).1
  (a.push .call (some 7) ⟨0, 0⟩).1

/-- `bar()`, the last value of the branch of the `if` that initializes a property, is judged by
that `if`. -/
theorem value_branch_tail :
    valueBranchArena.kindOf 7 = .block ∧ valueBranchArena.parentOf 8 = some 7 ∧
    (valueBranchArena.kindOf 8).isExpression = true ∧
    ((∀ o, valueBranchArena.parentOf 7 = some o → valueBranchArena.kindOf o ≠ .lambda →
        (∀ c, valueBranchArena.kindOf o ≠ .callable c) →
        valueBranchArena.kindOf o ≠ .classInitializer →
        valueBranchArena.isValueDiscarded 8 =
          if valueBranchArena.isLastChild 7 8 then valueBranchArena.isValueDiscarded o else true) ∧
      (∀ o, valueBranchArena.parentOf 7 = some o →
        ((∃ c, valueBranchArena.kindOf o = .callable c) ∨
          valueBranchArena.kindOf o = .classInitializer) →
        valueBranchArena.isValueDiscarded 8 = true) ∧
      (valueBranchArena.parentOf 7 = none → valueBranchArena.isValueDiscarded 8 = true)) :=
  ⟨by decide, by decide, by decide, block_tail_flows_to_owner (by decide) (by decide) (by decide)⟩

end Arena
end ResultLint
