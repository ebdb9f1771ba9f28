import ResultLint.Arena
import ResultLint.Annotation.Text
import ResultLint.Finding
import ResultLint.Language
import ResultLint.Source

/-!
# Source units

A source unit is one file read for analysis: its package, imports and file annotations, the
lowered arena of its syntax, and three tables that the arena's bindings point into: the classes
it declares, the methods and constructors, and the call sites. Classes and methods record the
class that encloses them, which is always declared earlier in the same file.
-/

namespace ResultLint

/-- A class-like declaration: class, interface, enum, record, object or companion. -/
structure ClassDecl where
  name : String
  qualifiedName : String
  annotations : List Annotation
  /-- The enclosing class, by index in the same unit. -/
  parent : Option Nat
  location : Location
  deriving Repr, Inhabited

/-- A method, function or constructor declaration. -/
structure MethodDecl where
  name : String
  /-- The declaring class, by index in the same unit; none for a top-level function. -/
  owner : Option Nat
  annotations : List Annotation
  isConstructor : Bool
  /-- Whether it returns nothing; none for constructors and for an inferred return type. -/
  returnsVoid : Option Bool
  minArity : Nat
  /-- The most arguments a call may pass; none for a variadic method. -/
  maxArity : Option Nat
  /-- The receiver type of an extension function. -/
  extensionOf : Option String
  location : Location
  deriving Repr, Inhabited

/-- Whether a call with `arity` arguments can reach a method. -/
def MethodDecl.acceptsArity (m : MethodDecl) (arity : Nat) : Bool :=
  decide (m.minArity ≤ arity) && (m.maxArity.map fun mx => decide (arity ≤ mx)).getD true

/-- What a call is made on. -/
inductive Receiver where
  /-- `foo()` -/
  | implicit
  /-- `this.foo()` or `super.foo()` -/
  | this
  /-- `name.foo()` where `name` is a plain identifier -/
  | named (name : String)
  /-- any other receiver expression -/
  | expression
  deriving DecidableEq, Repr, Inhabited

/-- A call found in a unit. -/
structure CallSite where
  /-- The call's node in the unit's arena. -/
  node : Nat
  name : String
  /-- The number of arguments, a trailing lambda included. -/
  arity : Nat
  receiver : Receiver
  /-- The simple type a named receiver is declared with. -/
  receiverType : Option String
  location : Location
  deriving Repr, Inhabited

/-- One file read for analysis. -/
structure SourceUnit where
  path : String
  language : Language
  package : Option String
  imports : List String
  fileAnnotations : List Annotation
  tree : Arena
  classes : Array ClassDecl
  methods : Array MethodDecl
  calls : Array CallSite
  deriving Inhabited

namespace SourceUnit

/-- The method whose body holds a node, innermost first. -/
def enclosingMethod (u : SourceUnit) (node : Nat) : Option Nat :=
  (u.tree.ancestors node).findSome? fun a =>
    match u.tree.bindingOf a with
    | some (.method i) => some i
    | _ => none

/-- The classes around a node, innermost first. -/
def enclosingClasses (u : SourceUnit) (node : Nat) : List Nat :=
  (u.tree.ancestors node).filterMap fun a =>
    match u.tree.bindingOf a with
    | some (.type i) => some i
    | _ => none

/-- A class followed by the classes around it, innermost first. -/
def classChain (u : SourceUnit) (c : Nat) : List ClassDecl :=
  go c (u.classes.size + 1)
where
  /-- Follows parent links; each parent is an earlier class. -/
  go (c : Nat) : Nat → List ClassDecl
    | 0 => []
    | fuel + 1 =>
      match u.classes[c]? with
      | some decl =>
        decl :: match decl.parent with
          | some p => go p fuel
          | none => []
      | none => []

/-- Whether the unit is a Java package description. -/
def isPackageInfo (u : SourceUnit) : Bool := ResultLint.isPackageInfo u.path

end SourceUnit

/-- The state of lowering one file: the arena and tables built so far. -/
structure UnitBuilder where
  path : String
  source : Source
  package : Option String
  imports : List String
  tree : Arena := .empty
  fileAnnotations : List Annotation := []
  classes : Array ClassDecl := #[]
  methods : Array MethodDecl := #[]
  calls : Array CallSite := #[]
  deriving Inhabited

/-- Lowering steps over the unit being built. -/
abbrev Build := StateM UnitBuilder

namespace UnitBuilder

/-- The text of a byte range. -/
def text (b : UnitBuilder) (span : Span) : String := b.source.slice span.start span.stop

/-- The location of a byte range. -/
def location (b : UnitBuilder) (span : Span) : Location :=
  let (line, column) := b.source.lineColumn span.start
  { file := b.path, line, column, startByte := span.start, endByte := span.stop }

/-- The qualified name of a class declared inside `enclosing`, or at the top of the file. -/
def qualify (b : UnitBuilder) (name : String) (enclosing : Option Nat) : String :=
  match enclosing.bind (b.classes[·]?) with
  | some outer => outer.qualifiedName ++ "." ++ name
  | none =>
    match b.package with
    | some p => if p.isEmpty then name else p ++ "." ++ name
    | none => name

/-- The annotations written in some byte ranges of the source. -/
def annotationsAt (b : UnitBuilder) (spans : List Span) : List Annotation :=
  spans.flatMap fun s => Annotation.ofText (b.text s) b.imports b.package

/-- The finished unit. -/
def finish (b : UnitBuilder) (language : Language) : SourceUnit :=
  { path := b.path, language, package := b.package, imports := b.imports,
    fileAnnotations := b.fileAnnotations, tree := b.tree, classes := b.classes,
    methods := b.methods, calls := b.calls }

end UnitBuilder

namespace Build

/-- Adds a node to the arena. -/
def push (kind : NodeKind) (parent : Option Nat) (span : Span) : Build Nat :=
  modifyGet fun b =>
    let (tree, id) := b.tree.push kind parent span
    (id, { b with tree })

/-- Makes a call the selector of a chain. -/
def setSelector (chain call : Nat) : Build Unit :=
  modify fun b => { b with tree := b.tree.setSelector chain call }

/-- Records a class declared at a node. -/
def addClass (node : Nat) (decl : ClassDecl) : Build Nat :=
  modifyGet fun b =>
    let i := b.classes.size
    (i, { b with classes := b.classes.push decl, tree := b.tree.bind node (.type i) })

/-- Records a method declared at a node. -/
def addMethod (node : Nat) (decl : MethodDecl) : Build Nat :=
  modifyGet fun b =>
    let i := b.methods.size
    (i, { b with methods := b.methods.push decl, tree := b.tree.bind node (.method i) })

/-- Records a call site at a node; its location is that of the method's name. -/
def addCall (node : Nat) (name : String) (arity : Nat) (receiver : Receiver)
    (receiverType : Option String) (at_ : Span) : Build Unit :=
  modify fun b =>
    let i := b.calls.size
    let site : CallSite := { node, name, arity, receiver, receiverType, location := b.location at_ }
    { b with calls := b.calls.push site, tree := b.tree.bind node (.call i) }

/-- Adds annotations of the whole file. -/
def addFileAnnotations (as : List Annotation) : Build Unit :=
  modify fun b => { b with fileAnnotations := b.fileAnnotations ++ as }

end Build

end ResultLint
