import ResultLint.SourceUnit
import ResultLint.Dictionary

/-!
# Projects

A project is the list of source units read for one analysis, in the order they were given,
read through three lookup tables filled in one pass over the units (`Index.ofUnits`): the
methods of each simple name, the simple names of the declared classes, and the file annotations
that package descriptions lend to their package. A project is built from its units alone, so
its tables are those of its units (`Project.index`).
-/

namespace ResultLint

/-- A method declaration, addressed by its unit and its place among that unit's methods. -/
structure MethodRef where
  unit : Nat
  method : Nat
  deriving DecidableEq, Repr, Inhabited

/-- The lookup tables of a project. -/
structure Index where
  methodsByName : Dictionary (List MethodRef) := {}
  classNames : List String := []
  packageAnnotations : Dictionary (List Annotation) := {}

namespace Index

/-- What the unit at index `ui` adds to the tables: the names of its classes, each of its
methods at the end of the list of its name, and, for a package description with file
annotations, those annotations at the end of the list of its package, a unit without a package
counting as the package with the empty name. -/
def addUnit (ix : Index) (u : SourceUnit) (ui : Nat) : Index where
  classNames := ix.classNames ++ u.classes.toList.map (·.name)
  methodsByName := u.methods.toList.zipIdx.foldl
    (fun d e => d.extend e.1.name [⟨ui, e.2⟩]) ix.methodsByName
  packageAnnotations :=
    if u.isPackageInfo && !u.fileAnnotations.isEmpty then
      ix.packageAnnotations.extend (u.package.getD "") u.fileAnnotations
    else ix.packageAnnotations

/-- The tables of the units, filled in one pass in unit order. -/
def ofUnits (units : Array SourceUnit) : Index :=
  units.toList.zipIdx.foldl (fun ix e => ix.addUnit e.1 e.2) {}

end Index

/-- The source units of one analysis. -/
structure Project where
  units : Array SourceUnit
  deriving Inhabited

namespace Project

/-- The lookup tables of a project, filled from its units. -/
def index (p : Project) : Index := Index.ofUnits p.units

/-- The declaration a reference points to; a dangling reference reads as the default. -/
def method (p : Project) (r : MethodRef) : MethodDecl :=
  ((p.units[r.unit]?).bind (·.methods[r.method]?)).getD default

/-- The class declaring a method, followed by the classes around it, innermost first. -/
def ownerChain (p : Project) (r : MethodRef) : List ClassDecl :=
  match p.units[r.unit]? with
  | some u =>
    match (u.methods[r.method]?).bind MethodDecl.owner with
    | some owner => u.classChain owner
    | none => []
  | none => []

/-- The methods of a simple name, as the table lists them. -/
def methodsNamed (p : Project) (name : String) : List MethodRef :=
  (p.index.methodsByName.get? name).getD []

/-- Whether a class of this simple name is in the table of class names. -/
def declaresClass (p : Project) (name : String) : Bool :=
  p.index.classNames.contains name

/-- The annotations the table holds for a package; no package reads as the empty name. -/
def packageAnnotations (p : Project) (package : Option String) : List Annotation :=
  (p.index.packageAnnotations.get? (package.getD "")).getD []

end Project

end ResultLint
