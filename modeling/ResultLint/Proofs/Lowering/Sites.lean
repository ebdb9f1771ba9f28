import ResultLint.SourceUnit
import ResultLint.Syntax

/-!
# Call sites along a lowering, and names looked up from a node

Two tools for statements about every call site a lowering records.

A step keeps a property of call sites when, run from a unit over a given text whose sites all
have it, it leaves the text as it is and sites that all have it (`KeepsSites`). Every step the
lowerings are written with keeps every property, except recording a site, which keeps those the
new site has (`KeepsSites.addCall`). A lowering is followed step by step with these rules and
never unfolded into the unit.

A node of a tree is reached from the root through its ancestors (`Tree.Within`), and a name used
at the node is looked up among them, nearest first. When each ancestor answers what it holds, a
lookup returning the first answer gives the nearest one held (`nearestHeld_findSome?`): an
answer comes from an ancestor that holds it with no nearer ancestor holding any, and some answer
comes whenever an ancestor holds one.
-/

namespace ResultLint

namespace Tree

variable {κ : Type}

/-- A node of a tree with its ancestors, innermost first. -/
inductive Within (root : Tree κ) : Tree κ → List (Tree κ) → Prop
  | root : Within root root []
  | child {t c : Tree κ} {A : List (Tree κ)} (ht : Within root t A) (hc : c ∈ t.children) :
      Within root c (t :: A)

end Tree

/-- What a lookup through scopes, nearest first, may return, given what each scope holds: an
answer held by a scope none of whose nearer scopes holds any, and some answer whenever a scope
holds one. -/
def NearestHeld {σ β : Type} (holds : σ → β → Prop) (scopes : List σ) (r : Option β) : Prop :=
  (∀ v, r = some v →
    ∃ near s far, scopes = near ++ s :: far ∧ holds s v ∧ ∀ s' ∈ near, ∀ v', ¬ holds s' v') ∧
  ((∃ s ∈ scopes, ∃ v, holds s v) → r.isSome)

/-- A lookup that returns the first answer of its scopes, where each scope answers something it
holds and answers whenever it holds something, returns the nearest answer held. -/
theorem nearestHeld_findSome? {σ β : Type} {holds : σ → β → Prop} {g : σ → Option β}
    (hsound : ∀ s v, g s = some v → holds s v) (hcomplete : ∀ s v, holds s v → (g s).isSome)
    (scopes : List σ) : NearestHeld holds scopes (scopes.findSome? g) := by
  constructor
  · intro v hv
    obtain ⟨near, s, far, rfl, hs, hnear⟩ := List.findSome?_eq_some_iff.mp hv
    refine ⟨near, s, far, rfl, hsound s v hs, fun s' hs' v' hv' => ?_⟩
    -- a nearer scope that held something would have answered
    have hsome := hcomplete s' v' hv'
    rw [hnear s' hs'] at hsome
    exact Bool.false_ne_true hsome
  · rintro ⟨s, hs, v, hv⟩
    exact List.findSome?_isSome_iff.mpr ⟨s, hs, hcomplete s v hv⟩

theorem UnitBuilder.text_span {κ : Type} {b : UnitBuilder} {src : Source} (hb : b.source = src)
    (t : Tree κ) : b.text t.span = src.slice t.start t.stop := by
  rw [UnitBuilder.text, hb]
  rfl

section Sites

variable (src : Source) (Q : CallSite → Prop)

/-- Run from a unit over the text `src` whose call sites all satisfy `Q`, the step leaves the
text as it is and call sites that all satisfy `Q`. -/
def KeepsSites {α : Type} (m : Build α) : Prop :=
  ∀ b : UnitBuilder, b.source = src → (∀ c ∈ b.calls.toList, Q c) →
    (m.run b).2.source = src ∧ ∀ c ∈ (m.run b).2.calls.toList, Q c

variable {src Q}

namespace KeepsSites

theorem pure {α : Type} (a : α) : KeepsSites src Q (Pure.pure a : Build α) :=
  fun _ hs hq => ⟨hs, hq⟩

theorem bind {α β : Type} {m : Build α} {f : α → Build β} (h : KeepsSites src Q m)
    (hf : ∀ a, KeepsSites src Q (f a)) : KeepsSites src Q (m >>= f) := fun b hs hq =>
  have hm := h b hs hq
  hf (m.run b).1 (m.run b).2 hm.1 hm.2

theorem read {β : Type} {f : UnitBuilder → Build β}
    (h : ∀ b : UnitBuilder, b.source = src → KeepsSites src Q (f b)) :
    KeepsSites src Q (get >>= f) :=
  fun b hs hq => h b hs b hs hq

theorem of_keeps {α : Type} {m : Build α}
    (h : ∀ b, (m.run b).2.source = b.source ∧ (m.run b).2.calls = b.calls) : KeepsSites src Q m :=
  fun b hs hq => by
    rw [(h b).1, (h b).2]
    exact ⟨hs, hq⟩

theorem ite {α : Type} {c : Prop} [Decidable c] {m m' : Build α} (h : KeepsSites src Q m)
    (h' : KeepsSites src Q m') : KeepsSites src Q (if c then m else m') := by
  split
  · exact h
  · exact h'

theorem push (k : NodeKind) (p : Option Nat) (s : Span) : KeepsSites src Q (Build.push k p s) :=
  of_keeps fun _ => ⟨rfl, rfl⟩

theorem setSelector (q c : Nat) : KeepsSites src Q (Build.setSelector q c) :=
  of_keeps fun _ => ⟨rfl, rfl⟩

theorem addClass (n : Nat) (d : ClassDecl) : KeepsSites src Q (Build.addClass n d) :=
  of_keeps fun _ => ⟨rfl, rfl⟩

theorem addMethod (n : Nat) (d : MethodDecl) : KeepsSites src Q (Build.addMethod n d) :=
  of_keeps fun _ => ⟨rfl, rfl⟩

theorem addFileAnnotations (as : List Annotation) : KeepsSites src Q (Build.addFileAnnotations as) :=
  of_keeps fun _ => ⟨rfl, rfl⟩

theorem discard {α : Type} {m : Build α} (h : KeepsSites src Q m) : KeepsSites src Q (discard m) :=
  h

/-- Recording a site keeps a property the site has, wherever its node and whatever its
location, as long as the location starts where the given bytes do. -/
theorem addCall {node : Nat} {name : String} {arity : Nat} {r : Receiver} {rt : Option String}
    {at_ : Span}
    (h : ∀ (n : Nat) (l : Location), l.startByte = at_.start → Q ⟨n, name, arity, r, rt, l⟩) :
    KeepsSites src Q (Build.addCall node name arity r rt at_) := fun b hs hq => by
  refine ⟨hs, fun c hc => ?_⟩
  have hcalls : ((Build.addCall node name arity r rt at_).run b).2.calls =
      b.calls.push ⟨node, name, arity, r, rt, b.location at_⟩ := rfl
  rw [hcalls, Array.toList_push] at hc
  rcases List.mem_append.mp hc with hc' | hc'
  · exact hq c hc'
  · rw [List.mem_singleton.mp hc']
    exact h _ _ rfl

end KeepsSites

theorem KeepsSites.run_start {m : Build Unit} (h : KeepsSites src Q m) {b : UnitBuilder}
    (hs : b.source = src) (hc : b.calls = #[]) : ∀ c ∈ (m.run b).2.calls.toList, Q c :=
  (h b hs (by simp [hc])).2

end Sites

end ResultLint
