import ResultLint.Kotlin.TopLevel
import ResultLint.SourceUnit
import ResultLint.TypeName
import ResultLint.Text.Letter

/-!
# Kotlin source units

Lowers a Kotlin syntax tree into a source unit. Type declarations, functions, constructors,
accessors, initializers, statement lists, lambdas and calls keep a node of their own kind;
bodies, call suffixes and argument lists add no node; the file header, modifiers and
annotations are left out; the structural nodes of classes, parameters, properties and `when`,
`catch` and `finally` clauses become `other`; everything else is an expression.

A call `recv.name(args)` becomes a chain whose selector is the call from the dot to the end of
the call. A plain name as receiver is looked up among the declarations of the enclosing
syntax, innermost first, for its declared type; `val x = Type(...)` declares `Type`.
-/

namespace ResultLint
namespace Kotlin

open Build

/-- The children the grammar names; unnamed tokens are left out. -/
def namedChildren (t : Syntax) : List Syntax := t.children.filter (·.kind != .keyword)

/-- The annotations of a declaration: those among its modifiers, and those of an annotated
expression standing right before it. -/
def declarationAnnotations (b : UnitBuilder) (node : Syntax) (previous : Option Syntax) :
    List Annotation :=
  let fromModifiers := match node.childOfKind? .modifiers with
    | some m => ((namedChildren m).filter (·.kind == .annotationNode)).map Tree.span
    | none => []
  let fromPrefix := match previous with
    | some p =>
      if p.kind == .prefixExpression then
        ((namedChildren p).filter (·.kind == .annotationNode)).map Tree.span
      else []
    | none => []
  b.annotationsAt (fromModifiers ++ fromPrefix)

/-- The fewest and most arguments a parameter list accepts. Each default value lowers the
fewest by one; a `vararg` parameter lowers it by one and leaves no most. -/
def parameterArity (b : UnitBuilder) (params : Syntax) : Nat × Option Nat :=
  let step (st : Nat × Nat × Bool × Bool) (c : Syntax) : Nat × Nat × Bool × Bool :=
    let (count, optional, vararg, pending) := st
    match c.kind with
    | .parameterModifiers => (count, optional, vararg, (Text.words (b.text c.span)).contains "vararg")
    | .parameter =>
      if pending then (count + 1, optional + 1, true, false) else (count + 1, optional, vararg, false)
    | .keyword => if b.text c.span == "=" then (count, optional + 1, vararg, pending) else st
    | _ => st
  let (count, optional, vararg, _) := params.children.foldl step (0, 0, false, false)
  if vararg then (count - optional, none) else (count - optional, some count)

/-- The name of a function: the last name before its parameters. -/
def functionName (node : Syntax) : Option Syntax :=
  ((namedChildren node).takeWhile (·.kind != .functionValueParameters)).reverse.find?
    (·.kind == .simpleIdentifier)

/-- The simple name of the type an extension function is declared on. -/
def extensionReceiver (b : UnitBuilder) (node : Syntax) : Option String :=
  match (namedChildren node).find? fun c =>
      [Kind.userType, .nullableType, .simpleIdentifier, .functionValueParameters].contains c.kind with
  | some c =>
    if c.kind == .userType || c.kind == .nullableType then TypeName.simpleTypeName (b.text c.span)
    else none
  | none => none

/-- Whether a function returns `Unit`: its written result type is `Unit`, or it has none and a
block body. A function with an expression body and no written type has an unknown result. What
is read as the written type is the first node after the colon, and a comment between the colon
and the type is such a node: the type is then not `Unit`. -/
def returnsUnit (b : UnitBuilder) (node : Syntax) : Option Bool :=
  match node.children.dropWhile (fun c => !(c.kind == .keyword && b.text c.span == ":")) with
  | colon :: rest =>
    match rest.find? (·.kind != .keyword) with
    | some t =>
      let between := b.text ⟨colon.span.stop, t.span.start⟩
      let written := Text.trim (b.text t.span)
      some (between.all Text.isBlank && (written == "Unit" || written == "kotlin.Unit"))
    | none => bodyRule
  | [] => bodyRule
where
  /-- The result of a function without a written type. -/
  bodyRule : Option Bool :=
    match node.childOfKind? .functionBody with
    | some body =>
      if body.children.any fun c => c.kind == .keyword && b.text c.span == "=" then none
      else some true
    | none => some true

/-- Whether a declaration's first name is `name`. -/
def declares (b : UnitBuilder) (node : Syntax) (name : String) : Bool :=
  ((node.childOfKind? .simpleIdentifier).map fun n => b.text n.span == name).getD false

/-- The simple name of the type written on a declaration. -/
def writtenType (b : UnitBuilder) (node : Syntax) : Option String :=
  ((namedChildren node).find? fun c => c.kind == .userType || c.kind == .nullableType).bind
    fun t => TypeName.simpleTypeName (b.text t.span)

/-- The class a property's initializer constructs: a call of a name starting with an upper-case
letter. -/
def constructedType (b : UnitBuilder) (property : Syntax) : Option String :=
  (property.childOfKind? .callExpression).bind fun call =>
    (namedChildren call).head?.bind fun callee =>
      let text := b.text callee.span
      if callee.kind == .simpleIdentifier && (text.toList.head?.map Text.isUppercase).getD false
      then some text
      else none

/-- The simple type a declaration gives to `name`, if it declares it; parameter lists are
searched item by item. -/
def declarationType (b : UnitBuilder) (name : String) : Syntax → Option String
  | node@(.node kind _ _ children) =>
    match kind with
    | .propertyDeclaration =>
      match node.childOfKind? .variableDeclaration with
      | some v =>
        if declares b v name then (writtenType b v).orElse fun _ => constructedType b node
        else none
      | none => none
    | .variableDeclaration | .parameter | .classParameter =>
      if declares b node name then writtenType b node else none
    | .functionValueParameters | .primaryConstructor | .lambdaParameters =>
      children.attach.findSome? fun ⟨c, _⟩ =>
        if c.kind == .keyword then none else declarationType b name c
    | _ => none

/-- The declared type of a variable, searched among the children of the given syntactic
ancestors from the innermost out. -/
def declaredType (b : UnitBuilder) (ancestors : List Syntax) (name : String) : Option String :=
  ancestors.findSome? fun scope => (namedChildren scope).findSome? (declarationType b name)

/-- The number of arguments of a call suffix: its value arguments and a trailing lambda. -/
def argumentCount (suffix : Syntax) : Nat :=
  let values := match suffix.childOfKind? .valueArguments with
    | some args => (args.children.filter (·.kind == .valueArgument)).length
    | none => 0
  values + (if (suffix.childOfKind? .annotatedLambda).isSome then 1 else 0)

/-- How a node is lowered by kind alone. -/
def plainKind : Kind → NodeKind
  | .statements => .block
  | .lambdaLiteral | .anonymousFunction => .lambda
  | .getter | .setter => .callable false
  | .anonymousInitializer => .classInitializer
  | .sourceFile | .classBody | .enumClassBody | .primaryConstructor | .classParameter
  | .functionValueParameters | .parameter | .propertyDeclaration | .variableDeclaration
  | .whenEntry | .catchBlock | .finallyBlock => .other
  | _ => .expression

/-- What lowering does with a node, by its kind. -/
inductive Role where
  /-- Left out with everything under it. -/
  | dropped
  /-- Adds no node: its children are lowered in its place. -/
  | transparent
  | typeDeclaration
  | function
  | constructor
  | call
  | navigation
  /-- One node of the kind `plainKind` gives, over the lowered children. -/
  | plain

/-- The lowering table: the file header, modifiers, annotations and keywords are dropped; bodies,
call suffixes and argument lists are transparent. -/
def role : Kind → Role
  | .packageHeader | .importList | .fileAnnotationNode | .shebangLine | .modifiers
  | .annotationNode | .keyword => .dropped
  | .functionBody | .controlStructureBody | .callSuffix | .valueArguments | .valueArgument
  | .annotatedLambda => .transparent
  | .classDeclaration | .objectDeclaration | .companionObject => .typeDeclaration
  | .functionDeclaration => .function
  | .secondaryConstructor => .constructor
  | .callExpression => .call
  | .navigationExpression => .navigation
  | _ => .plain

mutual

/-- Lowers a node under `parent`; `scopes` are the node's syntactic ancestors, innermost first,
`cls` is the innermost enclosing class and `previous` the named sibling before the node. A call
reaches into its callee and suffix, so the recursion is bounded by `fuel`, which the entry
point sets to three times the size of the tree: a node takes at most three steps (itself, its
plain lowering and the list of its children) and each later node of a list one more. -/
def lower : Nat → Syntax → Option Syntax → List Syntax → Option Nat → Option Nat → Build Unit
  | 0, _, _, _, _, _ => pure ()
  | fuel + 1, node, previous, scopes, parent, cls =>
  match node with
  | .node kind _ span children =>
    let inner := node :: scopes
    match role kind with
    | .dropped => pure ()
    | .transparent => lowerAll fuel children none inner parent cls
    | .typeDeclaration => do
      let b ← get
      let name := ((namedChildren node).find? fun c =>
          c.kind == .typeIdentifier || c.kind == .simpleIdentifier).map (fun n => b.text n.span)
        |>.getD (if kind == .companionObject then "Companion" else "<anonymous>")
      let id ← push .typeDeclaration parent span
      let b ← get
      let decl : ClassDecl :=
        { name, qualifiedName := b.qualify name cls,
          annotations := declarationAnnotations b node previous, parent := cls,
          location := b.location span }
      let index ← addClass id decl
      lowerAll fuel children none inner (some id) (some index)
    | .function => do
      let b ← get
      let name := ((functionName node).map fun n => b.text n.span).getD "<anonymous>"
      let (minArity, maxArity) :=
        ((node.childOfKind? .functionValueParameters).map (parameterArity b)).getD (0, some 0)
      let id ← push (.callable false) parent span
      let decl : MethodDecl :=
        { name, owner := cls, annotations := declarationAnnotations b node previous,
          isConstructor := false, returnsVoid := returnsUnit b node, minArity, maxArity,
          extensionOf := extensionReceiver b node, location := b.location span }
      discard (addMethod id decl)
      lowerAll fuel children none inner (some id) cls
    | .constructor => do
      let b ← get
      let name := ((cls.bind (b.classes[·]?)).map ClassDecl.name).getD "constructor"
      let (minArity, maxArity) :=
        ((node.childOfKind? .functionValueParameters).map (parameterArity b)).getD (0, some 0)
      let id ← push (.callable true) parent span
      let decl : MethodDecl :=
        { name, owner := cls, annotations := declarationAnnotations b node previous,
          isConstructor := true, returnsVoid := none, minArity, maxArity, extensionOf := none,
          location := b.location span }
      discard (addMethod id decl)
      lowerAll fuel children none inner (some id) cls
    | .call =>
      let suffix := node.childOfKind? .callSuffix
      let arity := (suffix.map argumentCount).getD 0
      let suffixChildren := (suffix.map Tree.children).getD []
      match namedChildren node with
      | [] => lowerPlain fuel kind span children inner parent cls
      | callee :: _ =>
        match callee.kind with
        | .simpleIdentifier => do
          let b ← get
          let call ← push .call parent span
          addCall call (b.text callee.span) arity .implicit none callee.span
          match suffix with
          | some s => lowerAll fuel suffixChildren none (s :: inner) (some call) cls
          | none => pure ()
        | .navigationExpression =>
          let navigation := callee.childOfKind? .navigationSuffix
          let identifier := navigation.bind (·.childOfKind? .simpleIdentifier)
          match (namedChildren callee).head?, navigation, identifier with
          | some receiver, some nav, some ident => do
            let qualified ← push .qualifiedReference parent span
            lower fuel receiver none (callee :: inner) (some qualified) cls
            let call ← push .call (some qualified) ⟨nav.start, span.stop⟩
            setSelector qualified call
            let b ← get
            let (recv, receiverType) :=
              match receiver.kind with
              | .thisExpression | .superExpression => (Receiver.this, none)
              | .simpleIdentifier =>
                let receiverName := b.text receiver.span
                (Receiver.named receiverName, declaredType b (callee :: inner) receiverName)
              | _ => (Receiver.expression, none)
            addCall call (b.text ident.span) arity recv receiverType ident.span
            match suffix with
            | some s => lowerAll fuel suffixChildren none (s :: inner) (some call) cls
            | none => pure ()
          | _, _, _ => lowerPlain fuel kind span children inner parent cls
        | _ => lowerPlain fuel kind span children inner parent cls
    | .navigation =>
      match (namedChildren node).head?, node.childOfKind? .navigationSuffix with
      | some receiver, some nav => do
        let qualified ← push .qualifiedReference parent span
        lower fuel receiver none inner (some qualified) cls
        let selector ← push .expression (some qualified) nav.span
        setSelector qualified selector
        lowerAll fuel nav.children none (nav :: inner) (some selector) cls
      | _, _ => lowerPlain fuel kind span children inner parent cls
    | .plain => lowerPlain fuel kind span children inner parent cls
termination_by structural f => f

/-- Lowers a node as a node of the kind its symbol gives, with its children under it. -/
def lowerPlain : Nat → Kind → Span → List Syntax → List Syntax → Option Nat → Option Nat →
    Build Unit
  | 0, _, _, _, _, _, _ => pure ()
  | fuel + 1, kind, span, children, inner, parent, cls => do
    let id ← push (plainKind kind) parent span
    lowerAll fuel children none inner (some id) cls
termination_by structural f => f

/-- Lowers nodes in order; `previous` is the named node before the first. -/
def lowerAll : Nat → List Syntax → Option Syntax → List Syntax → Option Nat → Option Nat →
    Build Unit
  | 0, _, _, _, _, _ => pure ()
  | _ + 1, [], _, _, _, _ => pure ()
  | fuel + 1, n :: rest, previous, scopes, parent, cls => do
    lower fuel n previous scopes parent cls
    lowerAll fuel rest (if n.kind == .keyword then previous else some n) scopes parent cls
termination_by structural f => f

end

/-- The package a file declares. -/
def packageOf (src : Source) (root : Syntax) : Option String :=
  (root.childOfKind? .packageHeader).bind fun h =>
    (h.childOfKind? .identifier).map fun n => src.slice n.start n.stop

/-- The imports of a file; a wildcard import keeps its `.*`. -/
def importsOf (src : Source) (root : Syntax) : List String :=
  match root.childOfKind? .importList with
  | some list =>
    (list.children.filter (·.kind == .importHeader)).filterMap fun i =>
      (i.childOfKind? .identifier).map fun n =>
        let text := src.slice n.start n.stop
        if (i.childOfKind? .wildcardImport).isSome then text ++ ".*" else text
  | none => []

end Kotlin

/-- Lowers the syntax tree of a Kotlin file's text into a source unit. -/
def SourceUnit.ofKotlinTree (path text : String) (root : Kotlin.Syntax) : SourceUnit :=
  let src := Source.ofString text
  let start : UnitBuilder :=
    { path, source := src, package := Kotlin.packageOf src root, imports := Kotlin.importsOf src root }
  let build : Build Unit := do
    let b ← get
    Build.addFileAnnotations
      (b.annotationsAt ((root.children.filter (·.kind == .fileAnnotationNode)).map Tree.span))
    Kotlin.lower (3 * root.size) root none [] none none
  ((build.run start).2).finish .kotlin

/-- Reads a Kotlin file into a source unit. -/
def SourceUnit.ofKotlin (path text : String) : SourceUnit :=
  SourceUnit.ofKotlinTree path text (Kotlin.parse text)

end ResultLint
