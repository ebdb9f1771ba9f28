import ResultLint.Kotlin.SourceUnit
import ResultLint.Proofs.Lowering

/-!
# The shape of a lowered Kotlin tree

`Kotlin.shape` reads off a syntax tree the nodes its lowering makes, step for step and with the
same fuel: dropped nodes leave nothing, transparent ones leave their children's nodes in their
place, a call on a plain name leaves a call over its suffix's nodes, a call on a navigation
leaves a chain of the receiver's nodes and the call, a navigation leaves a chain of the
receiver's nodes and an expression for the suffix, and every other node leaves the one node its
kind gives, over its children's nodes.

Each node of the shape is tagged with the position, in the whole tree, of the syntax node it was
lowered from: the list of child indexes taken from the root. The lowering lays out exactly this
shape and records one call site per call node, in order (`ofKotlinTree_layout`).
-/

namespace ResultLint

namespace Tree

variable {κ : Type}

/-- The subtree at a position: the list of child indexes taken from the root. -/
def at? : Tree κ → List Nat → Option (Tree κ)
  | t, [] => some t
  | t, i :: p => t.children[i]?.bind fun c => c.at? p

end Tree

namespace Kotlin

open Shape

/-- The index of the first child that is not a keyword. -/
def firstNamedIndex (t : Syntax) : Nat := t.children.findIdx (·.kind != .keyword)

/-- The index of the first child of a symbol. -/
def kindIndex (t : Syntax) (k : Kind) : Nat := t.children.findIdx (·.kind == k)

mutual

/-- The nodes lowering leaves for a node at position `p`, with `fuel` steps left. -/
def shape : Nat → List Nat → Syntax → List (Shape (List Nat))
  | 0, _, _ => []
  | fuel + 1, p, t =>
  match t with
  | Tree.node kind _ _ children =>
    match role kind with
    | .dropped => []
    | .transparent => shapeAll fuel p 0 children
    | .typeDeclaration => [.node .typeDeclaration p (shapeAll fuel p 0 children)]
    | .function => [.node (.callable false) p (shapeAll fuel p 0 children)]
    | .constructor => [.node (.callable true) p (shapeAll fuel p 0 children)]
    | .call =>
      let suffix := t.childOfKind? .callSuffix
      let suffixShape := match suffix with
        | some s => shapeAll fuel (p ++ [kindIndex t .callSuffix]) 0 s.children
        | none => []
      match namedChildren t with
      | [] => shapePlain fuel p kind children
      | callee :: _ =>
        if callee.kind = .simpleIdentifier then [.node .call p suffixShape]
        else if callee.kind = .navigationExpression then
          let navigation := callee.childOfKind? .navigationSuffix
          let identifier := navigation.bind (·.childOfKind? .simpleIdentifier)
          match (namedChildren callee).head?, navigation, identifier with
          | some receiver, some _, some _ =>
            [.node .qualifiedReference p
              (shape fuel (p ++ [firstNamedIndex t, firstNamedIndex callee]) receiver ++
                [.node .call p suffixShape])]
          | _, _, _ => shapePlain fuel p kind children
        else shapePlain fuel p kind children
    | .navigation =>
      match (namedChildren t).head?, t.childOfKind? .navigationSuffix with
      | some receiver, some nav =>
        let navPath := p ++ [kindIndex t .navigationSuffix]
        [.node .qualifiedReference p
          (shape fuel (p ++ [firstNamedIndex t]) receiver ++
            [.node .expression navPath (shapeAll fuel navPath 0 nav.children)])]
      | _, _ => shapePlain fuel p kind children
    | .plain => shapePlain fuel p kind children
termination_by structural f => f

/-- The node a symbol's kind gives, at position `p`, over its children's nodes. -/
def shapePlain : Nat → List Nat → Kind → List Syntax → List (Shape (List Nat))
  | 0, _, _, _ => []
  | fuel + 1, p, kind, children => [.node (plainKind kind) p (shapeAll fuel p 0 children)]
termination_by structural f => f

/-- The nodes lowering leaves for the children of the node at `p`, from child index `i` on. -/
def shapeAll : Nat → List Nat → Nat → List Syntax → List (Shape (List Nat))
  | 0, _, _, _ => []
  | _ + 1, _, _, [] => []
  | fuel + 1, p, i, n :: rest => shape fuel (p ++ [i]) n ++ shapeAll fuel p (i + 1) rest
termination_by structural f => f

end

theorem plainKind_ne (kind : Kind) :
    plainKind kind ≠ .qualifiedReference ∧ plainKind kind ≠ .call := by
  cases kind <;> simp [plainKind]

mutual

theorem lays_lower : ∀ (fuel : Nat) (t : Syntax) (previous : Option Syntax)
    (scopes : List Syntax) (P cls : Option Nat) (p : List Nat),
    Lays (lower fuel t previous scopes P cls) P [] (shape fuel p t)
  | 0, _, _, _, P, _, _ => by
    rw [lower, shape]
    exact Lays.pure P
  | fuel + 1, Tree.node kind field span children, previous, scopes, P, cls, p => by
    rw [lower, shape]
    cases hr : role kind with
    | dropped => exact Lays.pure P
    | transparent => exact lays_lowerAll fuel children none _ P cls p 0
    | typeDeclaration =>
      exact Lays.keep Keeps.get fun _ => Lays.push (by decide) (by decide) fun id =>
        Lays.keep Keeps.get fun _ => Lays.keep (Keeps.addClass _ _) fun index =>
          lays_lowerAll fuel children none _ (some id) (some index) p 0
    | function | constructor =>
      exact Lays.keep Keeps.get fun _ => Lays.push (by decide) (by decide) fun id =>
        Lays.keep (Keeps.discard (Keeps.addMethod _ _)) fun _ =>
          lays_lowerAll fuel children none _ (some id) cls p 0
    | call =>
      dsimp only
      have hsuffix : ∀ c, Lays (match (Tree.node kind field span children).childOfKind? .callSuffix with
          | some s => lowerAll fuel
              ((((Tree.node kind field span children).childOfKind? .callSuffix).map
                Tree.children).getD []) none
              (s :: Tree.node kind field span children :: scopes) (some c) cls
          | none => pure ()) (some c) []
          (match (Tree.node kind field span children).childOfKind? .callSuffix with
          | some s => shapeAll fuel (p ++ [kindIndex (Tree.node kind field span children) .callSuffix])
              0 s.children
          | none => []) := by
        intro c
        cases (Tree.node kind field span children).childOfKind? .callSuffix with
        | some s => exact lays_lowerAll fuel s.children none _ (some c) cls _ 0
        | none => exact Lays.pure (some c)
      cases hn : namedChildren (Tree.node kind field span children) with
      | nil => exact lays_lowerPlain fuel kind span children _ P cls p
      | cons callee others =>
        dsimp only
        split
        · next hk =>
          rw [if_pos hk]
          exact Lays.keep Keeps.get fun _ => Lays.pushCall fun call => Lays.addCall (hsuffix call)
        · next hk =>
          rw [if_neg (by rw [hk]; decide), if_pos hk]
          cases (namedChildren callee).head? with
          | none => exact lays_lowerPlain fuel kind span children _ P cls p
          | some receiver =>
            cases hnav : callee.childOfKind? .navigationSuffix with
            | none => exact lays_lowerPlain fuel kind span children _ P cls p
            | some nav =>
              simp only [Option.bind_some]
              cases nav.childOfKind? .simpleIdentifier with
              | none => exact lays_lowerPlain fuel kind span children _ P cls p
              | some ident =>
                refine Lays.chain (by decide)
                  (fun c => lays_lower fuel receiver none _ (some c) cls _) fun c call => ?_
                rw [if_pos rfl]
                refine Lays.keep Keeps.get fun b => ?_
                split <;> exact Lays.addCall (hsuffix call)
        · next hk1 hk2 =>
          rw [if_neg hk1, if_neg hk2]
          exact lays_lowerPlain fuel kind span children _ P cls p
    | navigation =>
      dsimp only
      cases (namedChildren (Tree.node kind field span children)).head? with
      | none => exact lays_lowerPlain fuel kind span children _ P cls p
      | some receiver =>
        cases (Tree.node kind field span children).childOfKind? .navigationSuffix with
        | none => exact lays_lowerPlain fuel kind span children _ P cls p
        | some nav =>
          refine Lays.chain (by decide)
            (fun c => lays_lower fuel receiver none _ (some c) cls _) fun c sel => ?_
          rw [if_neg (by decide)]
          exact lays_lowerAll fuel nav.children none _ (some sel) cls _ 0
    | plain => exact lays_lowerPlain fuel kind span children _ P cls p

theorem lays_lowerPlain : ∀ (fuel : Nat) (kind : Kind) (span : Span) (children : List Syntax)
    (inner : List Syntax) (P cls : Option Nat) (p : List Nat),
    Lays (lowerPlain fuel kind span children inner P cls) P [] (shapePlain fuel p kind children)
  | 0, _, _, _, _, P, _, _ => by
    rw [lowerPlain, shapePlain]
    exact Lays.pure P
  | fuel + 1, kind, span, children, inner, P, cls, p => by
    rw [lowerPlain, shapePlain]
    exact Lays.push (plainKind_ne kind).1 (plainKind_ne kind).2 fun id =>
      lays_lowerAll fuel children none inner (some id) cls p 0

theorem lays_lowerAll : ∀ (fuel : Nat) (ts : List Syntax) (previous : Option Syntax)
    (scopes : List Syntax) (P cls : Option Nat) (p : List Nat) (i : Nat),
    Lays (lowerAll fuel ts previous scopes P cls) P [] (shapeAll fuel p i ts)
  | 0, _, _, _, P, _, _, _ => by
    rw [lowerAll, shapeAll]
    exact Lays.pure P
  | _ + 1, [], _, _, P, _, _, _ => by
    rw [lowerAll, shapeAll]
    exact Lays.pure P
  | fuel + 1, n :: rest, previous, scopes, P, cls, p, i => by
    rw [lowerAll, shapeAll]
    exact (lays_lower fuel n previous scopes P cls (p ++ [i])).seq
      (lays_lowerAll fuel rest _ scopes P cls p (i + 1))

end

/-- Lowering a Kotlin tree lays out its shape from the first index, and records one call site
per call node of that layout, in order. -/
theorem ofKotlinTree_layout (path text : String) (root : Syntax) :
    (SourceUnit.ofKotlinTree path text root).tree.skeleton =
        entriesAll 0 none (shape (3 * root.size) [] root) ∧
      (SourceUnit.ofKotlinTree path text root).calls.toList.map CallSite.node =
        callPositions 0 (entriesAll 0 none (shape (3 * root.size) [] root)) := by
  unfold SourceUnit.ofKotlinTree
  simp only [UnitBuilder.finish]
  exact Lays.run_start (Lays.keep Keeps.get fun _ => Lays.keep (Keeps.addFileAnnotations _)
    fun _ => lays_lower _ root none [] none none []) _ (by rfl) (by rfl)

end Kotlin

end ResultLint
