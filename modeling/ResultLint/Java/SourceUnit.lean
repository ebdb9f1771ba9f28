import ResultLint.Java.Parse
import ResultLint.SourceUnit

/-!
# Java source units

Lowers a Java syntax tree into a source unit. Type declarations, methods, constructors, bodies,
initializers, lambdas and calls keep a node of their own kind; statement wrappers and argument
lists add no node; package, import and modifier nodes are left out; the structural nodes of
classes, fields, parameters and switches become `other`; everything else is an expression.

A call `recv.name(args)` becomes a chain whose selector is the call `name(args)`, spanning from
the method's name to the end of the arguments. A plain name as receiver is looked up among the
declarations of the enclosing scopes, innermost first, for its declared type.
-/

namespace ResultLint
namespace Java

open Build

/-- Whether a node is an annotation. -/
def isAnnotationNode (t : Syntax) : Bool := t.kind == .annotationMarker || t.kind == .annotationWithArguments

/-- The annotations among a declaration's modifiers. -/
def modifierAnnotations (b : UnitBuilder) (node : Syntax) : List Annotation :=
  match node.childOfKind? .modifiers with
  | some m => b.annotationsAt ((m.children.filter isAnnotationNode).map Tree.span)
  | none => []

/-- The fewest and most arguments a parameter list accepts; a variadic list has no most. -/
def parameterArity (params : Syntax) : Nat × Option Nat :=
  let count := (params.children.filter fun p =>
    p.kind == .formalParameter || p.kind == .spreadParameter).length
  if params.children.any (·.kind == .spreadParameter) then (count - 1, none)
  else (count, some count)

/-- The simple type written on a node whose name is `name`. -/
def typedName (b : UnitBuilder) (node : Syntax) (name : String) : Option String :=
  match node.child? .name with
  | some d =>
    if b.text d.span == name then
      (node.child? .type).bind fun t => TypeName.simpleTypeName (b.text t.span)
    else none
  | none => none

/-- The simple type a declaration gives to `name`, if it declares it. -/
def declarationType (b : UnitBuilder) (node : Syntax) (name : String) : Option String :=
  match node.kind with
  | .localVariableDeclaration | .fieldDeclaration =>
    let declares := node.children.any fun d =>
      d.kind == .variableDeclarator && ((d.child? .name).map fun n => b.text n.span == name).getD false
    if declares then (node.child? .type).bind fun t => TypeName.simpleTypeName (b.text t.span)
    else none
  | .formalParameters => node.children.findSome? (typedName b · name)
  | .formalParameter | .catchFormalParameter | .resource => typedName b node name
  | _ => none

/-- The declared type of a variable, searched in the given scopes from the innermost out. -/
def declaredType (b : UnitBuilder) (scopes : List Syntax) (name : String) : Option String :=
  scopes.findSome? fun scope =>
    (if scope.kind == .enhancedForStatement then typedName b scope name else none).orElse
      fun _ => scope.children.findSome? (declarationType b · name)

/-- The number of arguments of an invocation. -/
def arityOf (children : List Syntax) : Nat :=
  ((children.find? (·.field == some .arguments)).map fun a => a.children.length).getD 0

/-- How a node with children is lowered by kind alone. -/
def plainKind : Kind → Option NodeKind
  | .program | .classBody | .interfaceBody | .enumBody | .enumBodyDeclarations
  | .annotationTypeBody | .fieldDeclaration | .variableDeclarator | .formalParameters
  | .formalParameter | .catchClause | .finallyClause | .switchBlock => some .other
  | .constructorBody => some .block
  | .staticInitializer => some .classInitializer
  | .lambdaExpression => some .lambda
  | _ => none

/-- What lowering does with a node, by its kind. -/
inductive Role where
  /-- Left out with everything under it. -/
  | dropped
  /-- Adds no node: its children are lowered in its place. -/
  | transparent
  | typeDeclaration
  | callable (constructor : Bool)
  | block
  | invocation
  /-- A switch group: a block of its statements, without its labels. -/
  | switchGroup
  /-- One node of the given kind over the lowered children. -/
  | plain (kind : NodeKind)

/-- The lowering table: package, import and modifier nodes are dropped, statement wrappers and
argument lists are transparent, and whatever has no role of its own is an expression. -/
def role : Kind → Role
  | .packageDeclaration | .importDeclaration | .modifiers => .dropped
  | .expressionStatement | .argumentList => .transparent
  | .classDeclaration | .interfaceDeclaration | .enumDeclaration | .recordDeclaration
  | .annotationTypeDeclaration => .typeDeclaration
  | .methodDeclaration => .callable false
  | .constructorDeclaration | .compactConstructorDeclaration => .callable true
  | .block => .block
  | .methodInvocation => .invocation
  | .switchBlockStatementGroup => .switchGroup
  | k => .plain ((plainKind k).getD .expression)

/-- Whether the statements directly under a node of this kind are class members. -/
def opensClassBody (k : Kind) : Bool := k == .classBody || k == .enumBodyDeclarations

mutual

/-- Lowers a node under `parent`; `scopes` are the node's syntactic ancestors, innermost first,
and `cls` is the innermost enclosing class. -/
def lower (node : Syntax) (scopes : List Syntax) (parent : Option Nat) (cls : Option Nat) :
    Build Unit :=
  match node with
  | .node kind _ span children =>
    let inner := node :: scopes
    match role kind with
    | .dropped => pure ()
    | .transparent => lowerAll children inner parent cls
    | .typeDeclaration => do
      let b ← get
      let name := ((node.child? .name).map fun n => b.text n.span).getD "<anonymous>"
      let id ← push .typeDeclaration parent span
      let b ← get
      let decl : ClassDecl :=
        { name, qualifiedName := b.qualify name cls, annotations := modifierAnnotations b node,
          parent := cls, location := b.location span }
      let index ← addClass id decl
      lowerAll children inner (some id) (some index)
    | .callable constructor => do
      let b ← get
      let name := ((node.child? .name).map fun n => b.text n.span).orElse
        (fun _ => (cls.bind (b.classes[·]?)).map ClassDecl.name) |>.getD "<init>"
      let returnsVoid := if constructor then none
        else some (((node.child? .type).map fun t => t.kind == .voidType).getD false)
      let (minArity, maxArity) := ((node.child? .parameters).map parameterArity).getD (0, some 0)
      let id ← push (.callable constructor) parent span
      let b ← get
      let decl : MethodDecl :=
        { name, owner := cls, annotations := modifierAnnotations b node,
          isConstructor := constructor, returnsVoid, minArity, maxArity, extensionOf := none,
          location := b.location span }
      discard (addMethod id decl)
      lowerAll children inner (some id) cls
    | .block =>
      let inClassBody : Bool := match scopes.head? with
        | some p => opensClassBody p.kind
        | none => false
      if inClassBody then do
        let init ← push .classInitializer parent span
        let id ← push .block (some init) span
        lowerAll children inner (some id) cls
      else do
        let id ← push .block parent span
        lowerAll children inner (some id) cls
    | .invocation =>
      match children.find? (·.field == some .name) with
      | none => do
        let id ← push .expression parent span
        lowerAll children inner (some id) cls
      | some nameNode => do
        let b ← get
        let name := b.text nameNode.span
        let arity := arityOf children
        match children.find? (·.field == some .object) with
        | some obj => do
          let chain ← push .qualifiedReference parent span
          lowerField children inner (some chain) cls .object
          let call ← push .call (some chain) ⟨nameNode.start, span.stop⟩
          setSelector chain call
          let (receiver, receiverType) :=
            match obj.kind with
            | .this | .super => (Receiver.this, none)
            | .identifier =>
              let receiverName := b.text obj.span
              (Receiver.named receiverName, declaredType b inner receiverName)
            | _ => (Receiver.expression, none)
          addCall call name arity receiver receiverType nameNode.span
          lowerArguments children inner (some call) cls
        | none => do
          let call ← push .call parent span
          addCall call name arity .implicit none nameNode.span
          lowerArguments children inner (some call) cls
    | .switchGroup => do
      let id ← push .block parent span
      lowerExceptLabels children inner (some id) cls
    | .plain k => do
      let id ← push k parent span
      lowerAll children inner (some id) cls
termination_by structural node

/-- Lowers nodes in order. -/
def lowerAll (nodes : List Syntax) (scopes : List Syntax) (parent : Option Nat)
    (cls : Option Nat) : Build Unit :=
  match nodes with
  | [] => pure ()
  | n :: rest => do
    lower n scopes parent cls
    lowerAll rest scopes parent cls
termination_by structural nodes

/-- Lowers the nodes that fill one role. -/
def lowerField (nodes : List Syntax) (scopes : List Syntax) (parent : Option Nat)
    (cls : Option Nat) (f : Field) : Build Unit :=
  match nodes with
  | [] => pure ()
  | n :: rest => do
    if n.field == some f then lower n scopes parent cls
    lowerField rest scopes parent cls f
termination_by structural nodes

/-- Lowers the arguments of an invocation, given the invocation's children. -/
def lowerArguments (nodes : List Syntax) (scopes : List Syntax) (parent : Option Nat)
    (cls : Option Nat) : Build Unit :=
  match nodes with
  | [] => pure ()
  | n :: rest => do
    match n with
    | .node _ f _ cs => if f == some .arguments then lowerAll cs (n :: scopes) parent cls
    lowerArguments rest scopes parent cls
termination_by structural nodes

/-- Lowers the statements of a switch group, leaving out its label. -/
def lowerExceptLabels (nodes : List Syntax) (scopes : List Syntax) (parent : Option Nat)
    (cls : Option Nat) : Build Unit :=
  match nodes with
  | [] => pure ()
  | n :: rest => do
    if n.kind != .switchLabel then lower n scopes parent cls
    lowerExceptLabels rest scopes parent cls
termination_by structural nodes

end

/-- The package a file declares. -/
def packageOf (src : Source) (root : Syntax) : Option String :=
  (root.childOfKind? .packageDeclaration).bind fun p =>
    (p.children.find? fun c => c.kind == .scopedIdentifier || c.kind == .identifier).map
      fun n => src.slice n.start n.stop

/-- The imports of a file; a wildcard import keeps its `.*`. -/
def importsOf (src : Source) (root : Syntax) : List String :=
  (root.children.filter (·.kind == .importDeclaration)).filterMap fun i =>
    (i.children.find? fun c => c.kind == .scopedIdentifier || c.kind == .identifier).map fun n =>
      let text := src.slice n.start n.stop
      if (i.childOfKind? .asterisk).isSome then text ++ ".*" else text

end Java

/-- Lowers the syntax tree of a Java file's text into a source unit. -/
def SourceUnit.ofJavaTree (path text : String) (root : Java.Syntax) : SourceUnit :=
  let src := Source.ofString text
  let package := Java.packageOf src root
  let imports := Java.importsOf src root
  let start : UnitBuilder := { path, source := src, package, imports }
  let build : Build Unit := do
    match root.childOfKind? .packageDeclaration with
    | some p =>
      let b ← get
      Build.addFileAnnotations (b.annotationsAt ((p.children.filter Java.isAnnotationNode).map Tree.span))
    | none => pure ()
    Java.lower root [] none none
  ((build.run start).2).finish .java

/-- Reads a Java file into a source unit. -/
def SourceUnit.ofJava (path text : String) : SourceUnit :=
  SourceUnit.ofJavaTree path text (Java.parse text)

end ResultLint
