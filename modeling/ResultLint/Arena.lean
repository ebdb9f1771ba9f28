/-!
# The lowered syntax arena

A source file is reduced to a flat arena of nodes that keeps only what the value-flow analysis
needs: whether a node is an expression, a call, a chain, a block, a lambda, a callable body, a
class initializer or a type declaration. Nodes are stored in the order they are created, and a
node's parent always has a smaller index. That order is kept in the type, so every walk towards
the root terminates.
-/

namespace ResultLint

/-- What a lowered node is, as far as the flow of a value is concerned. -/
inductive NodeKind where
  | expression
  | call
  | qualifiedReference
  | block
  | lambda
  | callable (constructor : Bool)
  | classInitializer
  | typeDeclaration
  | other
  deriving DecidableEq, Repr, Inhabited

namespace NodeKind

/-- Expressions, calls, chains, blocks and lambdas produce a value. -/
def isExpression : NodeKind → Bool
  | expression | call | qualifiedReference | block | lambda => true
  | _ => false

/-- The name under which a kind is written in outlines and dumps. -/
def name : NodeKind → String
  | expression => "Expression"
  | call => "Call"
  | qualifiedReference => "QualifiedReference"
  | block => "Block"
  | lambda => "Lambda"
  | callable false => "Callable"
  | callable true => "Constructor"
  | classInitializer => "ClassInitializer"
  | typeDeclaration => "TypeDeclaration"
  | other => "Other"

/-- Reads a kind back from its name. -/
def ofName? : String → Option NodeKind
  | "Expression" => some expression
  | "Call" => some call
  | "QualifiedReference" => some qualifiedReference
  | "Block" => some block
  | "Lambda" => some lambda
  | "Callable" => some (callable false)
  | "Constructor" => some (callable true)
  | "ClassInitializer" => some classInitializer
  | "TypeDeclaration" => some typeDeclaration
  | "Other" => some other
  | _ => none

theorem ofName?_name (k : NodeKind) : ofName? k.name = some k := by
  cases k with
  | callable c => cases c <;> rfl
  | _ => rfl

end NodeKind

/-- A node may stand for a declared class, a declared method or a call site of its unit;
the number is the position in the unit's table. -/
inductive Binding where
  | type (index : Nat)
  | method (index : Nat)
  | call (index : Nat)
  deriving DecidableEq, Repr, Inhabited

/-- A byte range of the source text. -/
structure Span where
  start : Nat
  stop : Nat
  deriving DecidableEq, Repr, Inhabited

/-- One node of the arena. The selector is the call that ends a chain. -/
structure Node where
  kind : NodeKind
  parent : Option Nat
  span : Span
  selector : Option Nat := none
  binding : Option Binding := none
  deriving Repr, Inhabited

/-- Nodes in creation order, where every parent comes before its children. -/
structure Arena where
  nodes : Array Node
  parent_lt : ∀ (i : Nat) (h : i < nodes.size), ∀ p ∈ nodes[i].parent, p < i

namespace Arena

/-- The arena without nodes. -/
def empty : Arena := ⟨#[], fun _ h => absurd h (Nat.not_lt_zero _)⟩

instance : Inhabited Arena := ⟨empty⟩

/-- The number of nodes. -/
def size (a : Arena) : Nat := a.nodes.size

/-- The node at an index, if there is one. -/
def get? (a : Arena) (i : Nat) : Option Node := a.nodes[i]?

/-- The parent of a node; the roots and indexes outside the arena have none. -/
def parentOf (a : Arena) (i : Nat) : Option Nat := (a.get? i).bind Node.parent

/-- The kind of a node; an index outside the arena reads as `other`. -/
def kindOf (a : Arena) (i : Nat) : NodeKind := ((a.get? i).map Node.kind).getD .other

/-- The selector of a chain. Only a qualified reference reports one. -/
def selectorOf (a : Arena) (i : Nat) : Option Nat :=
  match a.get? i with
  | some n => if n.kind = .qualifiedReference then n.selector else none
  | none => none

/-- The binding of a node, if it stands for a declaration or a call. -/
def bindingOf (a : Arena) (i : Nat) : Option Binding := (a.get? i).bind Node.binding

/-- The children of a node, in creation order. -/
def children (a : Arena) (p : Nat) : List Nat :=
  (List.range a.size).filter fun i => a.parentOf i == some p

theorem parentOf_lt {a : Arena} {i p : Nat} (h : a.parentOf i = some p) : p < i := by
  simp only [parentOf, get?] at h
  cases hi : a.nodes[i]? with
  | none => simp [hi] at h
  | some n =>
    rw [hi] at h
    have hlt : i < a.nodes.size := (Array.getElem?_eq_some_iff.mp hi).1
    have hn : a.nodes[i] = n := (Array.getElem?_eq_some_iff.mp hi).2
    exact a.parent_lt i hlt p (by rw [hn]; simpa using h)

/-- The chain of parents from a node up to its root, nearest first. -/
def ancestors (a : Arena) (i : Nat) : List Nat :=
  match h : a.parentOf i with
  | none => []
  | some p => p :: a.ancestors p
termination_by i
decreasing_by exact parentOf_lt h

/-- Appends a node and returns its index. A parent that is not yet in the arena is dropped,
so the order of parents is kept by construction. -/
def push (a : Arena) (kind : NodeKind) (parent : Option Nat) (span : Span) : Arena × Nat :=
  let n : Node := { kind, parent := parent.filter (· < a.nodes.size), span }
  (⟨a.nodes.push n, by
    intro i h p hp
    by_cases hi : i < a.nodes.size
    · rw [Array.getElem_push_lt hi] at hp
      exact a.parent_lt i hi p hp
    · have hsize : i = a.nodes.size := by simp at h; omega
      subst hsize
      rw [Array.getElem_push_eq] at hp
      simp only [n, Option.mem_def, Option.filter_eq_some_iff] at hp
      simpa using hp.2⟩, a.nodes.size)

/-- Changes a node without touching its parent. -/
def modify (a : Arena) (i : Nat) (f : Node → Node) (hf : ∀ n, (f n).parent = n.parent) :
    Arena :=
  ⟨a.nodes.modify i f, by
    intro j h p hp
    have hj : j < a.nodes.size := by simpa using h
    rw [Array.getElem_modify] at hp
    split at hp
    · rw [hf] at hp
      exact a.parent_lt j hj p hp
    · exact a.parent_lt j hj p hp⟩

/-- Makes `s` the selector of the chain `i`. -/
def setSelector (a : Arena) (i s : Nat) : Arena :=
  a.modify i (fun n => { n with selector := some s }) (fun _ => rfl)

/-- Records the declaration or call site a node stands for. -/
def bind (a : Arena) (i : Nat) (b : Binding) : Arena :=
  a.modify i (fun n => { n with binding := some b }) (fun _ => rfl)

end Arena

end ResultLint
