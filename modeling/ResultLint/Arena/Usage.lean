import ResultLint.Arena

/-!
# Whether a value is used

A call's result is discarded when the expression around it sits in statement position: not as
an operand, an argument, a receiver or a returned tail. The walk climbs from a node to the
nearest expression, then out of every chain whose selector it is, and looks at the context:

* in a block, a value that is not the last statement is discarded; the last one flows to the
  block's owner, except that a lambda's body uses its tail and a method, constructor or
  initializer body does not;
* directly under a constructor it is discarded;
* anywhere else it is consumed.

Every step moves to a node of smaller index, so the walk terminates on every arena.
-/

namespace ResultLint
namespace Arena

/-- The node itself, or its nearest ancestor, that has an expression kind. -/
def nearestExpression (a : Arena) (i : Nat) : Option Nat :=
  if (a.kindOf i).isExpression then some i
  else
    match h : a.parentOf i with
    | none => none
    | some p => a.nearestExpression p
termination_by i
decreasing_by exact parentOf_lt h

/-- Climbs from `e` while it is the selector of its parent reference. Returns the outermost
link of the chain and that link's parent. -/
def chainTop (a : Arena) (e : Nat) : Nat × Option Nat :=
  match h : a.parentOf e with
  | none => (e, none)
  | some p =>
    if a.kindOf p = .qualifiedReference ∧ a.selectorOf p = some e then a.chainTop p
    else (e, some p)
termination_by e
decreasing_by exact parentOf_lt h

/-- Whether `e` is the last child of `p`. -/
def isLastChild (a : Arena) (p e : Nat) : Bool :=
  (a.children p).getLast? == some e

/-- Whether the value produced at a node is thrown away. A node outside every expression,
or an expression at the root, is discarded. -/
def isValueDiscarded (a : Arena) (start : Nat) : Bool :=
  match a.nearestExpression start with
  | none => true
  | some e =>
    match a.chainTop e with
    | (_, none) => true
    | (top, some p) =>
      match a.kindOf p with
      | .block =>
        match a.parentOf p with
        | none => true
        | some o =>
          if a.kindOf o = .lambda then false
          else if !a.isLastChild p top then true
          else
            match a.kindOf o with
            | .callable _ | .classInitializer => true
            | _ => if o < start then a.isValueDiscarded o else true
      | .callable true => true
      | _ => false
termination_by start

end Arena
end ResultLint
