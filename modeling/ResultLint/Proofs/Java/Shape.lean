import ResultLint.Java.SourceUnit
import ResultLint.Proofs.Lowering

/-!
# The shape of a lowered Java tree

`Java.shape` reads off a syntax tree the nodes its lowering makes, by the same table of roles:
dropped nodes leave nothing, transparent ones leave their children's nodes in their place, a
block directly in a class body leaves an initializer holding the block, a call with a receiver
leaves a chain whose last child is the call, and every other node leaves one node over its
children's. The lowering lays out exactly this shape and records one call site per call node, in
order (`ofJavaTree_layout`), whatever the tree.
-/

namespace ResultLint
namespace Java

open Shape

mutual

/-- The nodes lowering leaves for a node; `inClassBody` says it stands directly in a class body. -/
def shape (inClassBody : Bool) : Syntax → List (Shape Unit)
  | .node kind _ _ children =>
    let inner := opensClassBody kind
    match role kind with
    | .dropped => []
    | .transparent => shapeAll inner children
    | .typeDeclaration => [.node .typeDeclaration () (shapeAll inner children)]
    | .callable c => [.node (.callable c) () (shapeAll inner children)]
    | .block =>
      if inClassBody then [.node .classInitializer () [.node .block () (shapeAll inner children)]]
      else [.node .block () (shapeAll inner children)]
    | .invocation =>
      match children.find? (·.field == some .name) with
      | none => [.node .expression () (shapeAll inner children)]
      | some _ =>
        match children.find? (·.field == some .object) with
        | some _ =>
          [.node .qualifiedReference ()
            (shapeField inner .object children ++ [.node .call () (shapeArguments children)])]
        | none => [.node .call () (shapeArguments children)]
    | .switchGroup => [.node .block () (shapeExceptLabels inner children)]
    | .plain k => [.node k () (shapeAll inner children)]

/-- The nodes lowering leaves for nodes in order. -/
def shapeAll (inClassBody : Bool) : List Syntax → List (Shape Unit)
  | [] => []
  | n :: rest => shape inClassBody n ++ shapeAll inClassBody rest

/-- The nodes lowering leaves for the nodes that fill one role. -/
def shapeField (inClassBody : Bool) (f : Field) : List Syntax → List (Shape Unit)
  | [] => []
  | n :: rest =>
    (if n.field == some f then shape inClassBody n else []) ++ shapeField inClassBody f rest

/-- The nodes lowering leaves for the arguments of an invocation, given its children. -/
def shapeArguments : List Syntax → List (Shape Unit)
  | [] => []
  | n :: rest =>
    (match n with
      | .node k f _ cs => if f == some .arguments then shapeAll (opensClassBody k) cs else []) ++
      shapeArguments rest

/-- The nodes lowering leaves for a switch group's children other than its labels. -/
def shapeExceptLabels (inClassBody : Bool) : List Syntax → List (Shape Unit)
  | [] => []
  | n :: rest =>
    (if n.kind != .switchLabel then shape inClassBody n else []) ++
      shapeExceptLabels inClassBody rest

end

/-- Whether a node whose ancestors are `scopes`, innermost first, stands directly in a class body. -/
def inClassBodyOf (scopes : List Syntax) : Bool :=
  match scopes.head? with
  | some p => opensClassBody p.kind
  | none => false

theorem inClassBodyOf_cons (t : Syntax) (scopes : List Syntax) :
    inClassBodyOf (t :: scopes) = opensClassBody t.kind := rfl

theorem role_plain_ne {kind : Kind} {k : NodeKind} (h : role kind = .plain k) :
    k ≠ .qualifiedReference ∧ k ≠ .call := by
  cases kind <;> simp [role, plainKind] at h <;> simp [← h]

mutual

theorem lays_lower : ∀ (t : Syntax) (scopes : List Syntax) (P cls : Option Nat),
    Lays (lower t scopes P cls) P [] (shape (inClassBodyOf scopes) t)
  | .node kind field span children, scopes, P, cls => by
    have hall : ∀ Q, Lays (lowerAll children (.node kind field span children :: scopes) Q cls) Q []
        (shapeAll (opensClassBody kind) children) := fun Q => lays_lowerAll children _ Q cls
    rw [lower, shape]
    cases hr : role kind with
    | dropped => exact Lays.pure P
    | transparent => exact hall P
    | typeDeclaration =>
      refine Lays.keep Keeps.get fun b => Lays.push (by decide) (by decide) fun id => ?_
      exact Lays.keep Keeps.get fun b => Lays.keep (Keeps.addClass _ _) fun index =>
        lays_lowerAll children _ (some id) (some index)
    | callable c =>
      exact Lays.keep Keeps.get fun b => Lays.push (by simp) (by simp) fun id =>
        Lays.keep Keeps.get fun b => Lays.keep (Keeps.discard (Keeps.addMethod _ _)) fun _ =>
          hall (some id)
    | block =>
      have hbody : Lays (Build.push .block P span >>= fun id =>
          lowerAll children (.node kind field span children :: scopes) (some id) cls) P []
          [.node .block () (shapeAll (opensClassBody kind) children)] :=
        Lays.push (by decide) (by decide) fun id => hall (some id)
      have hinit : Lays (Build.push .classInitializer P span >>= fun init =>
          Build.push .block (some init) span >>= fun id =>
          lowerAll children (.node kind field span children :: scopes) (some id) cls) P []
          [.node .classInitializer () [.node .block () (shapeAll (opensClassBody kind) children)]] :=
        Lays.push (by decide) (by decide) fun init =>
          Lays.push (by decide) (by decide) fun id => by simpa using hall (some id)
      -- the lowering asks the same question of the scopes as `inClassBodyOf`
      dsimp only
      unfold inClassBodyOf
      cases scopes.head? with
      | none => exact hbody
      | some p =>
        dsimp only
        by_cases hp : opensClassBody p.kind = true
        · rw [if_pos hp, if_pos hp]
          exact hinit
        · rw [if_neg hp, if_neg hp]
          exact hbody
    | invocation =>
      cases hname : children.find? (·.field == some .name) with
      | none => exact Lays.push (by decide) (by decide) fun id => hall (some id)
      | some nameNode =>
        refine Lays.keep Keeps.get fun b => ?_
        cases hobj : children.find? (·.field == some .object) with
        | none =>
          exact Lays.pushCall fun call =>
            Lays.addCall (by simpa using lays_lowerArguments children _ (some call) cls)
        | some obj =>
          refine Lays.chain (by decide) (fun chain => lays_lowerField children _ (some chain) cls
            .object) fun chain call => ?_
          rw [if_pos rfl]
          split
          exact Lays.addCall (by simpa using lays_lowerArguments children _ (some call) cls)
    | switchGroup =>
      exact Lays.push (by decide) (by decide) fun id => lays_lowerExceptLabels children _ (some id) cls
    | plain k =>
      exact Lays.push (role_plain_ne hr).1 (role_plain_ne hr).2 fun id => hall (some id)

theorem lays_lowerAll : ∀ (ts : List Syntax) (scopes : List Syntax) (P cls : Option Nat),
    Lays (lowerAll ts scopes P cls) P [] (shapeAll (inClassBodyOf scopes) ts)
  | [], _, P, _ => by
    rw [lowerAll, shapeAll]
    exact Lays.pure P
  | n :: rest, scopes, P, cls => by
    rw [lowerAll, shapeAll]
    exact (lays_lower n scopes P cls).seq (lays_lowerAll rest scopes P cls)

theorem lays_lowerField : ∀ (ts : List Syntax) (scopes : List Syntax) (P cls : Option Nat)
    (f : Field), Lays (lowerField ts scopes P cls f) P [] (shapeField (inClassBodyOf scopes) f ts)
  | [], _, P, _, _ => by
    rw [lowerField, shapeField]
    exact Lays.pure P
  | n :: rest, scopes, P, cls, f => by
    rw [lowerField, shapeField]
    by_cases hf : n.field = some f
    · simpa [hf] using (lays_lower n scopes P cls).seq (lays_lowerField rest scopes P cls f)
    · simpa [hf] using (Lays.pure P).seq (lays_lowerField rest scopes P cls f)

theorem lays_lowerArguments : ∀ (ts : List Syntax) (scopes : List Syntax) (P cls : Option Nat),
    Lays (lowerArguments ts scopes P cls) P [] (shapeArguments ts)
  | [], _, P, _ => by
    rw [lowerArguments, shapeArguments]
    exact Lays.pure P
  | .node k f span cs :: rest, scopes, P, cls => by
    rw [lowerArguments, shapeArguments]
    by_cases hf : f = some .arguments
    · simpa [hf, inClassBodyOf_cons, Tree.kind] using
        (lays_lowerAll cs (.node k f span cs :: scopes) P cls).seq
          (lays_lowerArguments rest scopes P cls)
    · simpa [hf] using (Lays.pure P).seq (lays_lowerArguments rest scopes P cls)

theorem lays_lowerExceptLabels : ∀ (ts : List Syntax) (scopes : List Syntax) (P cls : Option Nat),
    Lays (lowerExceptLabels ts scopes P cls) P [] (shapeExceptLabels (inClassBodyOf scopes) ts)
  | [], _, P, _ => by
    rw [lowerExceptLabels, shapeExceptLabels]
    exact Lays.pure P
  | n :: rest, scopes, P, cls => by
    rw [lowerExceptLabels, shapeExceptLabels]
    by_cases hl : n.kind = .switchLabel
    · simpa [hl] using (Lays.pure P).seq (lays_lowerExceptLabels rest scopes P cls)
    · simpa [hl] using (lays_lower n scopes P cls).seq (lays_lowerExceptLabels rest scopes P cls)

end

end Java

end ResultLint
