import ResultLint.Arena

/-!
# Arenas written as outlines

An outline lists nodes by kind name, with an optional parent and an optional selector given by
index. Building checks the outline node by node (the kind, then the parent) and checks the
selectors only once every node is in place, so the first fault in that order is the one
reported.
-/

namespace ResultLint
namespace Arena

/-- How an outline refers to another node: not at all, by index, or by something that is not
an index. -/
inductive Link where
  | absent
  | index (i : Nat)
  | malformed
  deriving DecidableEq, Repr, Inhabited

/-- One line of an outline. -/
structure OutlineNode where
  kind : String
  parent : Link := .absent
  selector : Link := .absent
  deriving Repr, Inhabited

/-- Why an outline does not describe an arena. -/
inductive OutlineError where
  | unknownKind (node : Nat) (kind : String)
  | parentNotEarlier (node : Nat)
  | selectorNotNode (node : Nat)
  deriving DecidableEq, Repr

/-- The text of an outline error. -/
def OutlineError.message : OutlineError → String
  | .unknownKind i k => s!"node {i} has unknown kind '{k}'"
  | .parentNotEarlier i => s!"parent of node {i} must be an earlier node"
  | .selectorNotNode i => s!"selector of node {i} is not a node"

/-- Adds the outline's nodes one by one, checking kinds and parents. -/
def pushOutline (a : Arena) : List OutlineNode → Except OutlineError Arena
  | [] => .ok a
  | n :: rest =>
    let i := a.size
    match NodeKind.ofName? n.kind with
    | none => .error (.unknownKind i n.kind)
    | some kind =>
      let parent : Except OutlineError (Option Nat) :=
        match n.parent with
        | .absent => .ok none
        | .index p => if p < i then .ok (some p) else .error (.parentNotEarlier i)
        | .malformed => .error (.parentNotEarlier i)
      match parent with
      | .error e => .error e
      | .ok p => pushOutline (a.push kind p ⟨0, 0⟩).1 rest

/-- Sets the selectors named by the outline, after every node exists. -/
def setOutlineSelectors (a : Arena) : Nat → List OutlineNode → Except OutlineError Arena
  | _, [] => .ok a
  | i, n :: rest =>
    match n.selector with
    | .absent => setOutlineSelectors a (i + 1) rest
    | .index s =>
      if s < a.size then setOutlineSelectors (a.setSelector i s) (i + 1) rest
      else .error (.selectorNotNode i)
    | .malformed => .error (.selectorNotNode i)

/-- The arena an outline describes. -/
def ofOutline (nodes : List OutlineNode) : Except OutlineError Arena := do
  let a ← pushOutline empty nodes
  setOutlineSelectors a 0 nodes

end Arena
end ResultLint
