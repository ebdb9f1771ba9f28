/-!
# Paths

Paths are kept as the text they were written with. Two paths are ordered by their components:
a root first, then `.` (only at the start), then `..`, then ordinary names, which compare as
text. So `a/b/Y.java` comes before `a.b/X.java`, because the component `a` comes before `a.b`.
-/

namespace ResultLint
namespace Path

/-- One component of a path. -/
inductive Component where
  | root
  | current
  | parent
  | name (text : String)
  deriving DecidableEq, Repr, Inhabited

/-- Components come in the order root, current, parent, then names by text. -/
def Component.lt : Component → Component → Bool
  | .root, .root => false
  | .root, _ => true
  | .current, .root | .current, .current => false
  | .current, _ => true
  | .parent, .name _ => true
  | .parent, _ => false
  | .name a, .name b => a < b
  | .name _, _ => false

/-- The components of a path: empty parts and inner `.` parts are dropped. -/
def components (p : String) : List Component :=
  let parts := p.splitOn "/"
  let absolute := p.toList.head? = some '/'
  let lead := if absolute then [Component.root] else []
  let named := parts.filter (· != "")
  let first : List Component :=
    match named with
    | "." :: _ => if absolute then [] else [.current]
    | _ => []
  let rest := named.filter (· != ".")
  lead ++ first ++ rest.map fun s => if s == ".." then .parent else .name s

/-- Lexicographic order of component lists. -/
def componentsLt : List Component → List Component → Bool
  | [], [] => false
  | [], _ :: _ => true
  | _ :: _, [] => false
  | a :: as, b :: bs => if a = b then componentsLt as bs else a.lt b

/-- Whether one path comes strictly before another. -/
def lt (p q : String) : Bool := componentsLt (components p) (components q)

/-- Whether two paths have the same components. -/
def same (p q : String) : Bool := components p == components q

/-- The last name of a path, if it ends in a name. -/
def fileName? (p : String) : Option String :=
  match (components p).getLast? with
  | some (.name s) => some s
  | _ => none

/-- The extension of a path's file name: the text after its last dot, unless that dot starts
the name. -/
def extension? (p : String) : Option String :=
  match fileName? p with
  | some name =>
    let cs := name.toList
    match cs.reverse.idxOf? '.' with
    | some k =>
      if k + 1 = cs.length then none
      else some (String.ofList (cs.drop (cs.length - k)))
    | none => none
  | none => none

/-- Appends a relative path to a directory. -/
def join (dir rel : String) : String :=
  if rel.toList.head? = some '/' then rel
  else if dir.isEmpty then rel
  else if dir.toList.getLast? = some '/' then dir ++ rel
  else dir ++ "/" ++ rel

/-- Drops trailing empty and `.` parts, keeping the first part. -/
def trimParts : List String → List String
  | [] => []
  | p :: rest => p :: (rest.reverse.dropWhile fun q => q == "" || q == ".").reverse

/-- The directory that holds a path's last name: the text before that name, less trailing
separators and `.` parts; a leading `.` or root stays, and a bare name has the empty parent. -/
def parent (p : String) : String :=
  match trimParts (p.splitOn "/").dropLast with
  | [""] => if p.toList.head? = some '/' then "/" else ""
  | parts => "/".intercalate parts

end Path
end ResultLint
