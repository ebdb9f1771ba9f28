import ResultLint.Project
import ResultLint.Policy
import ResultLint.Text.Letter

/-!
# Resolving calls to marked declarations

Without type information a call is matched by simple name and number of arguments, then
narrowed by what its receiver says about the declaring class. The marker in effect for a method
is found on the method, else on its classes from the innermost out, else on its package; an
exemption met first ends the search with no marker. A call counts as marked only when every
remaining candidate is marked.
-/

namespace ResultLint

/-- What the annotations of one scope say about a result. -/
inductive Verdict where
  /-- The scope carries the exemption. -/
  | exempt
  /-- The scope carries this marker and no exemption. -/
  | marked (marker : Annotation)
  /-- The scope says nothing. -/
  | silent
  deriving Repr, Inhabited

/-- The verdict of a scope: an exemption anywhere wins, else its first marker. -/
def MarkerSet.verdict (m : MarkerSet) (as : List Annotation) : Verdict :=
  if as.any m.isExemption then .exempt
  else
    match as.find? m.isMarker with
    | some a => .marked a
    | none => .silent

/-- A marked declaration a call resolves to. -/
structure Target where
  method : MethodRef
  decl : MethodDecl
  /-- The class declaring every candidate; none for top-level functions or overloads on
  different classes. -/
  owner : Option ClassDecl
  marker : Annotation
  deriving Repr, Inhabited

namespace Project

/-- The type a named receiver stands for: the declared type of the variable, or the name
itself when it names a class (declared in the project, or capitalised). -/
def receiverType (p : Project) (call : CallSite) (name : String) : Option String :=
  call.receiverType.orElse fun _ =>
    let namesClass := p.declaresClass name || (name.toList.head?.map Text.isUppercase).getD false
    if namesClass then some name else none

/-- Whether a method is a member of a type (or of a class around a member, as for companions),
or an extension on it. -/
def declaredOn (p : Project) (r : MethodRef) (typeName : String) : Bool :=
  match (p.method r).owner with
  | some _ => (p.ownerChain r).any (·.name == typeName)
  | none => (p.method r).extensionOf == some typeName

/-- The declared methods a call may invoke. -/
def candidates (p : Project) (unitIndex : Nat) (call : CallSite) : List MethodRef :=
  let matching := (p.methodsNamed call.name).filter fun r =>
    !(p.method r).isConstructor && (p.method r).acceptsArity call.arity
  if matching.isEmpty then []
  else
    match call.receiver with
    | .implicit | .this =>
      let enclosing := ((p.units[unitIndex]?).map (·.enclosingClasses call.node)).getD []
      let members := matching.filter fun r =>
        r.unit == unitIndex && ((p.method r).owner.map enclosing.contains).getD false
      if !members.isEmpty then members
      else
        let topLevel := matching.filter fun r => (p.method r).owner.isNone
        if topLevel.isEmpty then matching else topLevel
    | .named name =>
      match p.receiverType call name with
      -- a known receiver type rules out every method it does not declare
      | some t => matching.filter (p.declaredOn · t)
      | none =>
        let owned := matching.filter fun r => ((p.ownerChain r).head?.map (·.name == name)).getD false
        if owned.isEmpty then matching else owned
    | .expression => matching

/-- The annotations of a unit's package: its package descriptions, then its own file
annotations. -/
def packageScope (p : Project) (u : SourceUnit) : List Annotation :=
  p.packageAnnotations u.package ++ u.fileAnnotations

/-- The marker in effect for a method: on the method, else on its classes from the innermost
out, else on its package. An exemption stops the search. -/
def appliedMarker (p : Project) (m : MarkerSet) (r : MethodRef) : Option Annotation :=
  match m.verdict (p.method r).annotations with
  | .exempt => none
  | .marked a => some a
  | .silent => classes (p.ownerChain r)
where
  /-- Searches the classes, then the package. -/
  classes : List ClassDecl → Option Annotation
    | [] =>
      match m.verdict (((p.units[r.unit]?).map p.packageScope).getD []) with
      | .marked a => some a
      | _ => none
    | c :: rest =>
      match m.verdict c.annotations with
      | .exempt => none
      | .marked a => some a
      | .silent => classes rest

/-- The marked target of a call, when every candidate is marked. -/
def resolve (p : Project) (m : MarkerSet) (unitIndex : Nat) (call : CallSite) : Option Target :=
  match p.candidates unitIndex call with
  | [] => none
  | first :: rest =>
    match p.appliedMarker m first with
    | none => none
    | some marker =>
      if rest.any fun r => (p.appliedMarker m r).isNone then none
      else
        let owner := (p.ownerChain first).head?
        let ownerName := owner.map ClassDecl.qualifiedName
        let shared := (first :: rest).all fun r =>
          ((p.ownerChain r).head?.map ClassDecl.qualifiedName) == ownerName
        some { method := first, decl := p.method first, owner := if shared then owner else none,
               marker }

/-- The annotations visible at a call: its method's, its classes' from the innermost out,
and its package's. -/
def scopesAt (p : Project) (unitIndex : Nat) (call : CallSite) : Scopes :=
  match p.units[unitIndex]? with
  | none => {}
  | some u =>
    { member := ((u.enclosingMethod call.node).bind (u.methods[·]?)).map MethodDecl.annotations
        |>.getD []
      classes := (u.enclosingClasses call.node).flatMap fun c =>
        ((u.classes[c]?).map ClassDecl.annotations).getD []
      packageLevel := p.packageScope u }

end Project

end ResultLint
