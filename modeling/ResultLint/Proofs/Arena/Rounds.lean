import Mathlib.Logic.Function.Iterate
import ResultLint.Proofs.Arena.Walk

/-!
# The usage walk, move by move

`isValueDiscarded` runs as a loop of rounds. A round looks for the nearest expression at or
above its start, climbs out of every chain that expression is the selector of, and judges the
place it reached; the last value of a block that something other than a method owns starts a
new round from the block's owner. `WalkState.step` is one move of that loop, with nothing in it
that bounds the loop.

On every arena, and whatever nodes the selectors name (a child, another node, the chain
itself), the loop ends: each move lowers `WalkState.rank`, so a walk begun at `n` is done within
`2 * n + 1` moves, with the verdict of `isValueDiscarded` (`usage_walk_terminates`). On the way it
reads only nodes of the arena, the search and the climb move to strictly smaller nodes, and every
new round starts strictly below the one before (`WalkState.Descends`).
-/

namespace ResultLint
namespace Arena

/-- Where the usage walk stands between two moves: looking for the nearest expression at or
above `node` in the round begun at `start`; climbing out of the chains that `top` is the
selector of, `parent` being its parent; or done. -/
inductive WalkState where
  | seek (start node : Nat)
  | climb (start top parent : Nat)
  | done (discarded : Bool)
  deriving DecidableEq, Repr

namespace WalkState

variable (a : Arena)

/-- The move that judges `top` by its place under its parent `q`: a verdict, or a new round from
the owner of the block `q`. -/
def place (q top : Nat) : WalkState :=
  match a.kindOf q with
  | .block =>
    (a.parentOf q).elim (.done true) fun o =>
      if a.kindOf o = .lambda then .done false
      else if !a.isLastChild q top then .done true
      else
        match a.kindOf o with
        | .callable _ | .classInitializer => .done true
        | _ => .seek o o
  | .callable true => .done true
  | _ => .done false

/-- One move of the walk. -/
def step : WalkState → WalkState
  | .seek start i =>
    if (a.kindOf i).isExpression then (a.parentOf i).elim (.done true) (.climb start i)
    else (a.parentOf i).elim (.done true) (.seek start)
  | .climb start top q =>
    if a.kindOf q = .qualifiedReference ∧ a.selectorOf q = some top then
      (a.parentOf q).elim (.done true) (.climb start q)
    else place a q top
  | .done b => .done b

/-- The nodes whose entries a move reads: the node searched; or the parent of the climbing
expression, with that parent's own parent, the owner it may judge by. -/
def reads : WalkState → List Nat
  | .seek _ i => [i]
  | .climb _ _ q => q :: (a.parentOf q).toList
  | .done _ => []

/-- The verdict a state stands for: that of the node it is at, or the one it reached. -/
def verdict : WalkState → Bool
  | .seek _ i => a.isValueDiscarded i
  | .climb _ top _ => a.isValueDiscarded top
  | .done b => b

/-- A measure that every move lowers: a search at `i` weighs `2 * i + 1`, a climb under `q`
weighs `2 * q + 2`, so a climb from `i` weighs less than the search at `i`. -/
def rank : WalkState → Nat
  | .seek _ i => 2 * i + 1
  | .climb _ _ q => 2 * q + 2
  | .done _ => 0

/-- What holds of every state of a walk begun at `n`: rounds start at most at `n`, the node at
hand is at most the round's start, and a climbing expression hangs from the parent kept with
it. -/
def Inv (n : Nat) : WalkState → Prop
  | .seek s i => s ≤ n ∧ i ≤ s
  | .climb s top q =>
    s ≤ n ∧ top ≤ s ∧ (a.kindOf top).isExpression = true ∧ a.parentOf top = some q
  | .done _ => True

/-- How a move goes down the arena: the search moves to the parent, the climb moves to the chain
above, a new round starts strictly below the last one, and nothing else starts a round. -/
def Descends : WalkState → WalkState → Prop
  | .seek s i, .seek s' i' => s' = s ∧ i' < i
  | .seek s i, .climb s' top q => s' = s ∧ top = i ∧ q < i
  | .climb s top q, .climb s' top' q' => s' = s ∧ top' = q ∧ q < top ∧ q' < q
  | .climb s _ _, .seek s' i => s' = i ∧ s' < s
  | _, .done _ => True
  | _, _ => False

variable {a}

theorem place_cases (q top : Nat) :
    (∃ b, place a q top = .done b) ∨ ∃ o, a.parentOf q = some o ∧ place a q top = .seek o o := by
  unfold place
  cases a.kindOf q with
  | block =>
    cases ho : a.parentOf q with
    | none => exact .inl ⟨true, rfl⟩
    | some o =>
      simp only [Option.elim_some]
      split
      · exact .inl ⟨false, rfl⟩
      · split
        · exact .inl ⟨true, rfl⟩
        · split
          · exact .inl ⟨true, rfl⟩
          · exact .inl ⟨true, rfl⟩
          · exact .inr ⟨o, rfl, rfl⟩
  | callable c => cases c <;> exact .inl ⟨_, rfl⟩
  | _ => exact .inl ⟨false, rfl⟩

theorem verdict_place (q top : Nat) : (place a q top).verdict a = a.placeVerdict q top := by
  unfold place placeVerdict
  cases a.kindOf q with
  | block =>
    cases ho : a.parentOf q with
    | none => rfl
    | some o =>
      simp only [Option.elim_some]
      by_cases hl : a.kindOf o = .lambda
      · simp [hl, verdict]
      · cases hlast : a.isLastChild q top with
        | false => simp [hl, verdict]
        | true => cases a.kindOf o <;> simp [verdict]
  | callable c => cases c <;> rfl
  | _ => rfl

theorem step_done (b : Bool) : step a (.done b) = .done b := rfl

theorem iterate_step_done (b : Bool) (k : Nat) : (step a)^[k] (.done b) = .done b :=
  Function.iterate_fixed (step_done b) k

variable (a) in
/-- The moves of the walk: it ends; the search finds an expression and begins to climb; the
search moves to the parent; the climb moves to the chain a selector ends; or a new round starts
at the owner of the block the climb ended in. -/
inductive Moves : WalkState → WalkState → Prop
  | finish (w : WalkState) (b : Bool) : Moves w (.done b)
  | enter {s i q : Nat} : a.parentOf i = some q → (a.kindOf i).isExpression = true →
      Moves (.seek s i) (.climb s i q)
  | up {s i q : Nat} : a.parentOf i = some q → Moves (.seek s i) (.seek s q)
  | link {s top q q' : Nat} : a.kindOf q = .qualifiedReference → a.parentOf q = some q' →
      Moves (.climb s top q) (.climb s q q')
  | restart {s top q o : Nat} : a.parentOf q = some o → Moves (.climb s top q) (.seek o o)

theorem moves_step (w : WalkState) : Moves a w (step a w) := by
  cases w with
  | seek s i =>
    cases hp : a.parentOf i with
    | none => simpa [step, hp] using Moves.finish _ true
    | some q =>
      by_cases hk : (a.kindOf i).isExpression = true
      · simpa [step, hp, hk] using (Moves.enter hp hk : Moves a (.seek s i) (.climb s i q))
      · simpa [step, hp, hk] using (Moves.up hp : Moves a (.seek s i) (.seek s q))
  | climb s top q =>
    by_cases hc : a.kindOf q = .qualifiedReference ∧ a.selectorOf q = some top
    · cases hp : a.parentOf q with
      | none => simpa [step, hc, hp] using Moves.finish _ true
      | some q' =>
        simpa [step, hc, hp] using (Moves.link hc.1 hp : Moves a (.climb s top q) (.climb s q q'))
    · rw [step, if_neg hc]
      rcases place_cases q top with ⟨b, hb⟩ | ⟨o, ho, hs⟩
      · rw [hb]; exact .finish _ b
      · rw [hs]; exact .restart ho
  | done b => exact .finish _ b

theorem Moves.rank_lt {w w' : WalkState} (h : Moves a w w') (hw : ∀ b, w ≠ .done b) :
    rank w' < rank w := by
  cases h with
  | finish w b => cases w <;> simp_all [rank]
  | enter hp _ | up hp | link _ hp | restart hp => have := parentOf_lt hp; simp [rank]; omega

theorem Moves.inv {n : Nat} {w w' : WalkState} (h : Moves a w w') (hi : Inv a n w) :
    Inv a n w' := by
  cases h with
  | finish w b => trivial
  | enter hp hk => exact ⟨hi.1, hi.2, hk, hp⟩
  | up hp => have := parentOf_lt hp; exact ⟨hi.1, by have := hi.2; omega⟩
  | link hq hp =>
    obtain ⟨hs, htop, -, hpt⟩ := hi
    have := parentOf_lt hpt
    exact ⟨hs, by omega, by rw [hq]; rfl, hp⟩
  | restart hp =>
    obtain ⟨hs, htop, -, hpt⟩ := hi
    have := parentOf_lt hpt
    have := parentOf_lt hp
    exact ⟨by omega, Nat.le_refl _⟩

theorem Moves.descends {n : Nat} {w w' : WalkState} (h : Moves a w w') (hi : Inv a n w) :
    Descends w w' := by
  cases h with
  | finish w b => cases w <;> trivial
  | enter hp _ => exact ⟨rfl, rfl, parentOf_lt hp⟩
  | up hp => exact ⟨rfl, parentOf_lt hp⟩
  | link _ hp => exact ⟨rfl, rfl, parentOf_lt hi.2.2.2, parentOf_lt hp⟩
  | restart hp =>
    obtain ⟨-, htop, -, hpt⟩ := hi
    have := parentOf_lt hpt
    have := parentOf_lt hp
    exact ⟨rfl, by omega⟩

/-- A walk whose rank is at most `k` is done after `k` moves. -/
theorem iterate_step_of_rank_le : ∀ (k : Nat) (w : WalkState), rank w ≤ k →
    ∃ b, (step a)^[k] w = .done b
  | 0, .done b, _ => ⟨b, rfl⟩
  | 0, .seek _ _, h => absurd h (by simp [rank])
  | 0, .climb _ _ _, h => absurd h (by simp [rank])
  | k + 1, w, h => by
    by_cases hw : ∃ b, w = .done b
    · obtain ⟨b, rfl⟩ := hw
      exact ⟨b, iterate_step_done b _⟩
    · have hlt := (moves_step (a := a) w).rank_lt fun b hb => hw ⟨b, hb⟩
      rw [Function.iterate_succ_apply]
      exact iterate_step_of_rank_le k (step a w) (by omega)

/-- A move keeps the verdict the state stands for. -/
theorem verdict_step {n : Nat} {w : WalkState} (h : Inv a n w) :
    (step a w).verdict a = w.verdict a := by
  cases w with
  | seek s i =>
    cases hk : (a.kindOf i).isExpression with
    | true =>
      cases hp : a.parentOf i with
      | none => simp [step, verdict, hk, hp, isValueDiscarded_of_root hk hp]
      | some q => simp [step, verdict, hk, hp]
    | false =>
      cases hp : a.parentOf i <;>
        simp [step, verdict, hk, hp, isValueDiscarded_of_not_expression hk]
  | climb s top q =>
    obtain ⟨-, -, hk, hq⟩ := h
    by_cases hc : a.kindOf q = .qualifiedReference ∧ a.selectorOf q = some top
    · have hkq : (a.kindOf q).isExpression = true := by rw [hc.1]; rfl
      rw [verdict, isValueDiscarded_of_selector hk hq hc.1 hc.2]
      cases hp : a.parentOf q with
      | none => simp [step, verdict, hc, hp, isValueDiscarded_of_root hkq hp]
      | some q' => simp [step, verdict, hc, hp]
    · rw [step, if_neg hc, verdict_place, verdict, isValueDiscarded_of_place hk hq hc]
  | done b => rfl

theorem inv_iterate {n : Nat} (k : Nat) : Inv a n ((step a)^[k] (.seek n n)) := by
  induction k with
  | zero => exact ⟨Nat.le_refl n, Nat.le_refl n⟩
  | succ k ih =>
    rw [Function.iterate_succ_apply']
    exact (moves_step _).inv ih

theorem verdict_iterate (n k : Nat) :
    ((step a)^[k] (.seek n n)).verdict a = a.isValueDiscarded n := by
  induction k with
  | zero => rfl
  | succ k ih =>
    rw [Function.iterate_succ_apply', verdict_step (inv_iterate k), ih]

theorem reads_lt_size {n : Nat} (hn : n < a.size) {w : WalkState} (h : Inv a n w) :
    ∀ j ∈ w.reads a, j < a.size := by
  cases w with
  | seek s i =>
    obtain ⟨hs, hi⟩ := h
    simp only [reads, List.mem_singleton]
    rintro j rfl
    omega
  | climb s top q =>
    obtain ⟨hs, htop, -, hq⟩ := h
    have hqt := parentOf_lt hq
    simp only [reads, List.mem_cons, Option.mem_toList]
    rintro j (rfl | hj)
    · omega
    · have := parentOf_lt hj
      omega
  | done b => simp [reads]

end WalkState

/-- The usage walk ends on every arena whatever its selectors: begun at a node `n` of the arena,
it reads only nodes of the arena, each move of its search and of its climb goes to a strictly
smaller node, each new round starts strictly below the one before, and within `2 * n + 1` moves
it is done, with the verdict of `isValueDiscarded`. -/
theorem usage_walk_terminates (a : Arena) (n : Nat) (hn : n < a.size) :
    (∀ k, ∀ j ∈ ((WalkState.step a)^[k] (.seek n n)).reads a, j < a.size) ∧
    (∀ k, WalkState.Descends ((WalkState.step a)^[k] (.seek n n))
      ((WalkState.step a)^[k + 1] (.seek n n))) ∧
    (WalkState.step a)^[2 * n + 1] (.seek n n) = .done (a.isValueDiscarded n) := by
  refine ⟨fun k => WalkState.reads_lt_size hn (WalkState.inv_iterate k), fun k => ?_, ?_⟩
  · rw [Function.iterate_succ_apply']
    exact (WalkState.moves_step _).descends (WalkState.inv_iterate k)
  · obtain ⟨b, hb⟩ := WalkState.iterate_step_of_rank_le (a := a) (2 * n + 1) (.seek n n)
      (Nat.le_refl _)
    -- no move changes the verdict the walk stands for
    have hv := WalkState.verdict_iterate (a := a) n (2 * n + 1)
    rw [hb] at hv ⊢
    exact congrArg WalkState.done hv

/-- A method body holding the chain `x.f()` whose selector was set to the chain itself: the
method, the body, the chain, its receiver and its call. -/
def selfSelectedChainArena : Arena :=
  let a := (Arena.empty.push (.callable false) none ⟨0, 0⟩).1
  let a := (a.push .block (some 0) ⟨0, 0⟩).1
  let a := (a.push .qualifiedReference (some 1) ⟨0, 0⟩).1
  let a := (a.push .expression (some 2) ⟨0, 0⟩).1
  ((a.push .call (some 2) ⟨0, 0⟩).1).setSelector 2 2

/-- The walk from the call of a chain that is its own selector ends within the arena. -/
theorem self_selected_chain_walk :
    4 < selfSelectedChainArena.size ∧
    ((∀ k, ∀ j ∈ ((WalkState.step selfSelectedChainArena)^[k] (.seek 4 4)).reads
        selfSelectedChainArena, j < selfSelectedChainArena.size) ∧
      (∀ k, WalkState.Descends ((WalkState.step selfSelectedChainArena)^[k] (.seek 4 4))
        ((WalkState.step selfSelectedChainArena)^[k + 1] (.seek 4 4))) ∧
      (WalkState.step selfSelectedChainArena)^[2 * 4 + 1] (.seek 4 4) =
        .done (selfSelectedChainArena.isValueDiscarded 4)) :=
  ⟨by decide, usage_walk_terminates selfSelectedChainArena 4 (by decide)⟩

end Arena
end ResultLint
