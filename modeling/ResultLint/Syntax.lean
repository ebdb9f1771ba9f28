import ResultLint.Arena

/-!
# Concrete syntax trees

A concrete syntax tree labels every node with a grammar symbol and the byte range it covers;
a node may also name the role (field) it fills in its parent. Comments and skipped text are
not kept, so every node listed is a named node of the grammar or a token the analysis reads.
The tree is generic in the grammar's symbols.
-/

namespace ResultLint

/-- The roles a node may fill in its parent. -/
inductive Field where
  | name
  | type
  | parameters
  | object
  | arguments
  | body
  | value
  | condition
  | field
  | element
  | dimensions
  | operator
  | left
  | right
  deriving DecidableEq, Repr, Inhabited

/-- A node of a concrete syntax tree over the symbols `κ`. -/
inductive Tree (κ : Type) where
  | node (kind : κ) (field : Option Field) (span : Span) (children : List (Tree κ))
  deriving Repr, Inhabited

namespace Tree

variable {κ : Type}

/-- The node's grammar symbol. -/
def kind : Tree κ → κ
  | node k _ _ _ => k

/-- The role the node fills in its parent. -/
def field : Tree κ → Option Field
  | node _ f _ _ => f

/-- The node's byte range. -/
def span : Tree κ → Span
  | node _ _ s _ => s

/-- The node's children in source order. -/
def children : Tree κ → List (Tree κ)
  | node _ _ _ cs => cs

/-- The first byte of the node. -/
def start (t : Tree κ) : Nat := t.span.start

/-- The byte after the node. -/
def stop (t : Tree κ) : Nat := t.span.stop

/-- The node with a role in its parent. -/
def withField (t : Tree κ) (f : Field) : Tree κ :=
  match t with
  | node k _ s cs => node k (some f) s cs

/-- The first child filling a role. -/
def child? (t : Tree κ) (f : Field) : Option (Tree κ) :=
  t.children.find? (·.field == some f)

mutual

/-- The number of nodes of a tree. -/
def size : Tree κ → Nat
  | node _ _ _ cs => sizeAll cs + 1

/-- The number of nodes of a list of trees. -/
def sizeAll : List (Tree κ) → Nat
  | [] => 0
  | t :: ts => size t + sizeAll ts

end

mutual

/-- The tree with every byte range passed through `f`. -/
def mapSpan (f : Span → Span) : Tree κ → Tree κ
  | node k fld s cs => node k fld (f s) (mapSpanAll f cs)

/-- The trees with every byte range passed through `f`. -/
def mapSpanAll (f : Span → Span) : List (Tree κ) → List (Tree κ)
  | [] => []
  | t :: ts => mapSpan f t :: mapSpanAll f ts

end

/-- The first child of a symbol. -/
def childOfKind? [DecidableEq κ] (t : Tree κ) (k : κ) : Option (Tree κ) :=
  t.children.find? (·.kind == k)

end Tree

end ResultLint
