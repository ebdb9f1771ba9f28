import ResultLint.Java.Repair

/-!
# Reading Java syntax trees

A recursive-descent reader for the Java grammar that builds its named nodes, fields and byte
ranges. Where the grammar is ambiguous the reader decides as the grammar's precedences do: a statement that starts with a type and a name declares a
variable, a parenthesised type before an operand is a cast, and a label of a switch starts a
group of its own.

Every reading function takes a depth bound (`fuel`), which the entry point sets far above the
nesting any token sequence can reach; a reading that exhausts it fails like one that meets an
unexpected token.
-/

namespace ResultLint
namespace Java

open Read

/-- Words that are never identifiers. The reserved words that no construct uses, `const` and
`goto`, are names like any other. -/
def keywords : List String :=
  ["abstract", "assert", "boolean", "break", "byte", "case", "catch", "char", "class",
   "continue", "default", "do", "double", "else", "enum", "extends", "final", "finally", "float",
   "for", "if", "implements", "import", "instanceof", "int", "interface", "long",
   "native", "new", "package", "private", "protected", "public", "return", "short", "static",
   "strictfp", "super", "switch", "synchronized", "this", "throw", "throws", "transient", "try",
   "void", "volatile", "while", "true", "false", "null"]

/-- Words that modify a declaration. -/
def modifierWords : List String :=
  ["public", "protected", "private", "abstract", "static", "final", "strictfp", "default",
   "synchronized", "native", "transient", "volatile", "sealed"]

/-- The symbol of a primitive type word. -/
def primitiveKind? : String → Option Kind
  | "byte" | "short" | "int" | "long" | "char" => some .integralType
  | "float" | "double" => some .floatingPointType
  | "boolean" => some .booleanType
  | "void" => some .voidType
  | _ => none

/-- Whether a token is an identifier. -/
def isIdentifier (t : Token) : Bool := t.kind == .word && !keywords.contains t.text

/-- The symbol of a numeric literal. -/
def NumberKind.kind : NumberKind → Kind
  | .decimalInteger => .decimalIntegerLiteral
  | .hexInteger => .hexIntegerLiteral
  | .octalInteger => .octalIntegerLiteral
  | .binaryInteger => .binaryIntegerLiteral
  | .decimalFloat => .decimalFloatingPointLiteral
  | .hexFloat => .hexFloatingPointLiteral

/-- A string literal node with its pieces; `template` makes the node of an embedded
expression. -/
def stringNode (t : Token) (parts : List StringPart) (textBlock : Bool)
    (template : StringPart → Syntax) : Syntax :=
  .node .stringLiteral none ⟨t.start, t.stop⟩ (parts.map fun p =>
    match p.kind with
    | .escape => .node .escapeSequence none ⟨p.start, p.stop⟩ []
    | .text =>
      .node (if textBlock then .multilineStringFragment else .stringFragment) none ⟨p.start, p.stop⟩ []
    | .template => template p)

/-- Takes an identifier. -/
def identifier : Read Syntax := do
  match ← peek with
  | some t => if isIdentifier t then discard bump; return leaf .identifier t else fail
  | none => fail

/-- Whether a token may name a declared variable: an identifier, or a keyword that cannot
follow a type there, which is then read as a name. -/
def namesVariable (t : Token) : Bool :=
  isIdentifier t || (t.kind == .word && t.text != "instanceof")

/-- Whether the next token may name a declared variable. -/
def atVariableName : Read Bool := do
  match ← peek with
  | some t => return namesVariable t
  | none => return false

/-- Takes the name of a declared variable. -/
def variableName : Read Syntax := do
  match ← peek with
  | some t => if namesVariable t then discard bump; return leaf .identifier t else fail
  | none => fail

/-- Whether the next token is an identifier. -/
def atIdentifier : Read Bool := do
  match ← peek with
  | some t => return isIdentifier t
  | none => return false

/-- Whether the token `k` ahead is an identifier. -/
def identifierAt (k : Nat) : Read Bool := do
  match ← peekAt k with
  | some t => return isIdentifier t
  | none => return false

/-- A dotted name: an identifier or a scoped identifier. -/
def dottedName : Read Syntax := do
  let start ← startByte
  let first ← identifier
  let rec more (acc : Syntax) : Nat → Read Syntax
    | 0 => pure acc
    | n + 1 => do
      if (← sym ".") && (← identifierAt 1) then
        discard bump
        let name ← identifier
        more (.node .scopedIdentifier none ⟨start, name.stop⟩ [acc, name.withField .name]) n
      else pure acc
  more first ((← read).size)

/-- Binary operators by precedence, loosest first. -/
def binaryPrecedence : String → Option Nat
  | "||" => some 4
  | "&&" => some 5
  | "|" => some 6
  | "^" => some 7
  | "&" => some 8
  | "==" | "!=" => some 9
  | "<" | ">" | "<=" | ">=" => some 10
  | "<<" | ">>" | ">>>" => some 11
  | "+" | "-" => some 12
  | "*" | "/" | "%" => some 13
  | _ => none

/-- Assignment operators. -/
def assignmentOperators : List String :=
  ["=", "+=", "-=", "*=", "/=", "%=", "&=", "|=", "^=", "<<=", ">>=", ">>>="]

/-- The operator at the reader's position, joining adjacent `>` tokens with what follows
them (`>>`, `>>>`, `>=`, `>>=`, `>>>=`); returns the operator and its token count. -/
def operatorAhead : Read (Option (String × Nat)) := do
  match ← peek with
  | none => return none
  | some t =>
    if t.kind != .symbol then return none
    else if t.text != ">" then return some (t.text, 1)
    else
      let toks ← read
      let pos ← position
      let adjacent (k : Nat) : Option Token :=
        match toks[pos + k]?, toks[pos + k - 1]? with
        | some u, some v => if u.start = v.stop then some u else none
        | _, _ => none
      let rec gather (k : Nat) (acc : String) : Nat → String × Nat
        | 0 => (acc, k)
        | n + 1 =>
          match adjacent k with
          | some u =>
            if u.text = ">" && acc.length < 3 then gather (k + 1) (acc ++ ">") n
            else if u.text = "=" then (acc ++ "=", k + 1)
            else if u.text = "==" then (acc, k)
            else (acc, k)
          | none => (acc, k)
      return some (gather 1 ">" 4)

/-- Whether a token can start an operand that is not a signed number, so that a parenthesised
type before it is a cast. -/
def startsCastOperand (t : Token) : Bool :=
  match t.kind with
  | .word => t.text != "instanceof"
  | .number _ | .character | .string .. => true
  | .symbol => ["(", "!", "~", "@"].contains t.text
  | .invalid => false

/-- Whether a token can start an expression. -/
def startsExpression (t : Token) : Bool :=
  match t.kind with
  | .word => !(["instanceof", "case", "default", "else", "catch", "finally", "extends",
      "implements", "throws"].contains t.text)
  | .number _ | .character | .string .. => true
  | .symbol => ["(", "!", "~", "+", "-", "++", "--", "@"].contains t.text
  | .invalid => false

/-- Whether a token may come next in a block: a statement's first token or the closing
brace. -/
def continuesBlock (t : Token) : Bool :=
  startsExpression t || (t.kind == .symbol && ["\x7b", "\x7d", ";"].contains t.text)

/-- Whether a token may come next in a class body: a member's first token or the closing
brace. -/
def continuesClassBody (t : Token) : Bool :=
  t.kind == .word || (t.kind == .symbol && ["\x7b", "\x7d", ";", "@", "<"].contains t.text)

/-- A package declaration, with the annotations read before it. -/
def packageDeclaration (start : Nat) (annotations : List Syntax) : Read Syntax := do
  expectWord "package"
  let name ← dottedName
  expect ";"
  finish .packageDeclaration start (annotations ++ [name])

/-- An import declaration. -/
def importDeclaration : Read Syntax := do
  let start ← startByte
  expectWord "import"
  if (← word "static") && !(← symAt 1 ".") then discard bump
  let name ← dottedName
  let star ←
    if (← sym ".") && (← symAt 1 "*") then
      discard bump
      let t ← bump
      pure [leaf .asterisk t]
    else pure []
  expect ";"
  finish .importDeclaration start ([name] ++ star)

/-- Dotted names separated by commas. -/
def nameList : Read (List Syntax) := do
  let rec go (acc : List Syntax) : Nat → Read (List Syntax)
    | 0 => pure acc.reverse
    | n + 1 => do
      let name ← dottedName
      if ← optional "," then go (name :: acc) n else pure (name :: acc).reverse
  go [] ((← read).size)

/-- One directive of a module body: which modules it requires, which packages it exports or
opens and to whom, which services it uses, and which it provides with what. -/
def moduleDirective : Read Syntax := do
  let start ← startByte
  let names ←
    if ← word "requires" then
      discard bump
      let rec modifiers (acc : List Syntax) : Nat → Read (List Syntax)
        | 0 => pure acc.reverse
        | n + 1 => do
          if ((← word "transitive") || (← word "static")) && (← identifierAt 1) then
            let t ← bump
            modifiers (leaf .requiresModifier t :: acc) n
          else pure acc.reverse
      let mods ← modifiers [] ((← read).size)
      pure (mods ++ [← dottedName])
    else if (← word "exports") || (← word "opens") then
      discard bump
      let exported ← dottedName
      if ← word "to" then
        discard bump
        pure (exported :: (← nameList))
      else pure [exported]
    else if ← word "uses" then
      discard bump
      pure [← dottedName]
    else if ← word "provides" then
      discard bump
      let service ← dottedName
      expectWord "with"
      pure (service :: (← nameList))
    else fail
  expect ";"
  finish .moduleDirective start names

/-- A module declaration, with the annotations read before it: an optional `open`, the word
`module`, the module's name and a body of directives. -/
def moduleDeclaration (start : Nat) (annotations : List Syntax) : Read Syntax := do
  if ← word "open" then discard bump
  expectWord "module"
  let name ← dottedName
  let bodyStart ← startByte
  expect "\x7b"
  let rec directives (acc : List Syntax) : Nat → Read (List Syntax)
    | 0 => pure acc.reverse
    | n + 1 => do
      if ← sym "\x7d" then pure acc.reverse
      else directives ((← moduleDirective) :: acc) n
  let items ← directives [] ((← read).size)
  expect "\x7d"
  let body ← finish .moduleBody bodyStart items
  finish .moduleDeclaration start (annotations ++ [name, body])

/-- Identifiers separated by commas. -/
def identifierList (acc : List Syntax) : Read (List Syntax) := do
  let rec go (acc : List Syntax) : Nat → Read (List Syntax)
    | 0 => pure acc.reverse
    | n + 1 => do
      let i ← identifier
      if ← optional "," then go (i :: acc) n else pure (i :: acc).reverse
  go acc ((← read).size)

/-- The type an expression names, when it is a name or a dotted chain of names, as in the
operand of `.class`. -/
def asType : Syntax → Option Syntax
  | .node .identifier _ s _ => some (.node .typeIdentifier none s [])
  | .node .fieldAccess _ s cs =>
    match cs with
    | [obj, .node .identifier _ fs _] =>
      (asType obj).map fun t => .node .scopedTypeIdentifier none s [t, .node .typeIdentifier none fs []]
    | _ => none
  | _ => none

mutual

/-- An annotation: `@Name` or `@Name(arguments)`. -/
def annotationNode : Nat → Read Syntax
  | 0 => fail
  | fuel + 1 => do
    let start ← startByte
    expect "@"
    let name ← dottedName
    if ← sym "(" then
      let args ← annotationArguments fuel
      finish .annotationWithArguments start [name.withField .name, args.withField .arguments]
    else finish .annotationMarker start [name.withField .name]
termination_by structural f => f

/-- The arguments of an annotation: one value or `key = value` pairs. -/
def annotationArguments : Nat → Read Syntax
  | 0 => fail
  | fuel + 1 => do
    let start ← startByte
    expect "("
    if ← optional ")" then return ← finish .annotationArgumentList start []
    let pairLike := (← identifierAt 0) && (← symAt 1 "=")
    if pairLike then
      let items ← elementPairs fuel []
      expect ")"
      finish .annotationArgumentList start items
    else
      let v ← elementValue fuel
      expect ")"
      finish .annotationArgumentList start [v]
termination_by structural f => f

/-- `key = value` pairs separated by commas. -/
def elementPairs : Nat → List Syntax → Read (List Syntax)
  | 0, _ => fail
  | fuel + 1, acc => do
    let start ← startByte
    let key ← identifier
    expect "="
    let v ← elementValue fuel
    let pair ← finish .elementValuePair start [key, v.withField .value]
    if ← optional "," then elementPairs fuel (pair :: acc) else return (pair :: acc).reverse
termination_by structural f _ => f

/-- An annotation element value. -/
def elementValue : Nat → Read Syntax
  | 0 => fail
  | fuel + 1 => do
    if ← sym "\x7b" then
      let start ← startByte
      discard bump
      let items ← elementValues fuel []
      expect "\x7d"
      finish .elementValueArrayInitializer start items
    else if (← sym "@") && !(← wordAt 1 "interface") then annotationNode fuel
    else expression fuel
termination_by structural f => f

/-- Element values separated by commas, an extra comma allowed. -/
def elementValues : Nat → List Syntax → Read (List Syntax)
  | 0, _ => fail
  | fuel + 1, acc => do
    if ← sym "\x7d" then return acc.reverse
    let v ← elementValue fuel
    if ← optional "," then elementValues fuel (v :: acc) else return (v :: acc).reverse
termination_by structural f _ => f

/-- Modifiers and annotations before a declaration, if any. -/
def modifiers : Nat → Read (Option Syntax)
  | 0 => fail
  | fuel + 1 => do
    let start ← startByte
    let before ← position
    let items ← modifierItems fuel []
    if (← position) == before then return none
    else some <$> finish .modifiers start items
termination_by structural f => f

/-- The annotations of a modifier list; modifier words leave no node. -/
def modifierItems : Nat → List Syntax → Read (List Syntax)
  | 0, _ => fail
  | fuel + 1, acc => do
    if (← sym "@") && !(← wordAt 1 "interface") then
      let a ← annotationNode fuel
      modifierItems fuel (a :: acc)
    else if (← word "non") && (← symAt 1 "-") && (← wordAt 2 "sealed") then
      discard bump; discard bump; discard bump
      modifierItems fuel acc
    else
      match ← peek with
      | some t =>
        if t.kind == .word && modifierWords.contains t.text then
          -- `default` and `synchronized` also start statements; they are modifiers only
          -- before a declaration
          if (t.text == "default" && ((← symAt 1 ":") || (← symAt 1 "->"))) ||
             (t.text == "synchronized" && (← symAt 1 "(")) then return acc.reverse
          discard bump
          modifierItems fuel acc
        else return acc.reverse
      | none => return acc.reverse
termination_by structural f _ => f

/-- Type arguments: `<A, ? extends B>`. -/
def typeArguments : Nat → Read Syntax
  | 0 => fail
  | fuel + 1 => do
    let start ← startByte
    expect "<"
    if ← optional ">" then return ← finish .typeArguments start []
    let items ← typeArgumentList fuel []
    expect ">"
    finish .typeArguments start items
termination_by structural f => f

/-- Type arguments separated by commas. -/
def typeArgumentList : Nat → List Syntax → Read (List Syntax)
  | 0, _ => fail
  | fuel + 1, acc => do
    let start ← startByte
    let annotations ← annotationsBefore fuel []
    let item ←
      if ← sym "?" then
        discard bump
        let bound ←
          if ← word "extends" then
            discard bump
            pure [← anyType fuel]
          else if ← word "super" then
            let t ← bump
            pure [leaf .super t, ← anyType fuel]
          else pure []
        finish .wildcard start (annotations ++ bound)
      else if annotations.isEmpty then anyType fuel
      else
        let ty ← unannotatedType fuel
        finish .annotatedType start (annotations ++ [ty])
    if ← optional "," then typeArgumentList fuel (item :: acc) else return (item :: acc).reverse
termination_by structural f _ => f

/-- Annotations before a type. -/
def annotationsBefore : Nat → List Syntax → Read (List Syntax)
  | 0, _ => fail
  | fuel + 1, acc => do
    if (← sym "@") && !(← wordAt 1 "interface") then
      let a ← annotationNode fuel
      annotationsBefore fuel (a :: acc)
    else return acc.reverse
termination_by structural f _ => f

/-- A type without annotations in front, but with array dimensions after it. -/
def unannotatedType : Nat → Read Syntax
  | 0 => fail
  | fuel + 1 => do
    let start ← startByte
    let base ← simpleType fuel
    if (← sym "[") && (← symAt 1 "]") || (← sym "@") && !(← wordAt 1 "interface") then
      match ← attempt (dimensions fuel) with
      | some d => finish .arrayType start [base.withField .element, d.withField .dimensions]
      | none => return base
    else return base
termination_by structural f => f

/-- A primitive type, or a class type with type arguments and qualifiers. -/
def simpleType : Nat → Read Syntax
  | 0 => fail
  | fuel + 1 => do
    match ← peek with
    | some t =>
      match primitiveKind? t.text with
      | some k => if t.kind == .word then discard bump; return leaf k t else fail
      | none =>
        if !isIdentifier t then fail
        let start ← startByte
        discard bump
        classTypeRest fuel start (leaf .typeIdentifier t)
    | none => fail
termination_by structural f => f

/-- The qualifiers and type arguments after the first name of a class type. -/
def classTypeRest : Nat → Nat → Syntax → Read Syntax
  | 0, _, _ => fail
  | fuel + 1, start, acc => do
    if ← sym "<" then
      match ← attempt (typeArguments fuel) with
      | some args =>
        let g ← finish .genericType start [acc, args]
        classTypeRest fuel start g
      | none => return acc
    else if (← sym ".") && ((← identifierAt 1) || (← symAt 1 "@")) then
      let save ← position
      discard bump
      let annotations ← annotationsBefore fuel []
      match ← peek with
      | some t =>
        if isIdentifier t then
          discard bump
          let s ← finish .scopedTypeIdentifier start (acc :: annotations ++ [leaf .typeIdentifier t])
          classTypeRest fuel start s
        else seek save; return acc
      | none => seek save; return acc
    else return acc
termination_by structural f _ _ => f

/-- A type, annotated or not. -/
def anyType : Nat → Read Syntax
  | 0 => fail
  | fuel + 1 => do
    let start ← startByte
    let annotations ← annotationsBefore fuel []
    let ty ← unannotatedType fuel
    if annotations.isEmpty then return ty
    else finish .annotatedType start (annotations ++ [ty])
termination_by structural f => f

/-- Array dimensions: `[]`, each optionally annotated. -/
def dimensions : Nat → Read Syntax
  | 0 => fail
  | fuel + 1 => do
    let start ← startByte
    let items ← dimensionItems fuel [] false
    finish .dimensions start items
termination_by structural f => f

/-- The pairs of brackets of a dimensions node. -/
def dimensionItems : Nat → List Syntax → Bool → Read (List Syntax)
  | 0, _, _ => fail
  | fuel + 1, acc, seen => do
    let save ← position
    let annotations ← annotationsBefore fuel []
    if (← sym "[") && (← symAt 1 "]") then
      discard bump; discard bump
      dimensionItems fuel (acc ++ annotations) true
    else
      seek save
      if seen then return acc else fail
termination_by structural f _ _ => f

/-- Type parameters: `<T extends A & B, U>`. -/
def typeParameters : Nat → Read Syntax
  | 0 => fail
  | fuel + 1 => do
    let start ← startByte
    expect "<"
    let items ← typeParameterList fuel []
    expect ">"
    finish .typeParameters start items
termination_by structural f => f

/-- Type parameters separated by commas. -/
def typeParameterList : Nat → List Syntax → Read (List Syntax)
  | 0, _ => fail
  | fuel + 1, acc => do
    let start ← startByte
    let annotations ← annotationsBefore fuel []
    let name ← bump
    if !isIdentifier name then fail
    let bound ←
      if ← word "extends" then
        let bstart ← startByte
        discard bump
        let first ← anyType fuel
        let rest ← boundTypes fuel []
        pure [← finish .typeBound bstart (first :: rest)]
      else pure []
    let p ← finish .typeParameter start (annotations ++ [leaf .typeIdentifier name] ++ bound)
    if ← optional "," then typeParameterList fuel (p :: acc) else return (p :: acc).reverse
termination_by structural f _ => f

/-- The further bounds of a type parameter, after `&`. -/
def boundTypes : Nat → List Syntax → Read (List Syntax)
  | 0, _ => fail
  | fuel + 1, acc => do
    if ← optional "&" then
      let t ← anyType fuel
      boundTypes fuel (t :: acc)
    else return acc.reverse
termination_by structural f _ => f

/-- Types separated by commas. -/
def typeList : Nat → List Syntax → Read (List Syntax)
  | 0, _ => fail
  | fuel + 1, acc => do
    let t ← anyType fuel
    if ← optional "," then typeList fuel (t :: acc) else return (t :: acc).reverse
termination_by structural f _ => f

/-- An expression. -/
def expression : Nat → Read Syntax
  | 0 => fail
  | fuel + 1 => do
    if ← lookahead (lambdaHead fuel) then lambda fuel
    else if ← word "switch" then switchExpression fuel
    else
      let start ← startByte
      let left ← ternary fuel
      match ← operatorAhead with
      | some (op, n) =>
        if assignmentOperators.contains op && [Kind.identifier, .fieldAccess, .arrayAccess].contains left.kind then
          for _ in [0:n] do discard bump
          let right ← expression fuel
          finish .assignmentExpression start [left.withField .left, right.withField .right]
        else return left
      | none => return left
termination_by structural f => f

/-- The parameters and arrow of a lambda. -/
def lambdaHead : Nat → Read Unit
  | 0 => fail
  | fuel + 1 => do
    if (← atIdentifier) && (← symAt 1 "->") then discard bump; discard bump
    else
      discard (lambdaParameters fuel)
      expect "->"
termination_by structural f => f

/-- The parameters of a lambda. -/
def lambdaParameters : Nat → Read Syntax
  | 0 => fail
  | fuel + 1 => do
    if ← atIdentifier then identifier
    else
      let start ← startByte
      let inferred ← lookahead (do expect "("; discard (identifierList []); expect ")")
      if inferred && !(← symAt 1 ")") then
        expect "("
        let names ← identifierList []
        expect ")"
        finish .inferredParameters start names
      else formalParameters fuel
termination_by structural f => f

/-- A lambda expression. -/
def lambda : Nat → Read Syntax
  | 0 => fail
  | fuel + 1 => do
    let start ← startByte
    let params ← lambdaParameters fuel
    expect "->"
    let body ← if ← sym "\x7b" then block fuel else expression fuel
    finish .lambdaExpression start [params.withField .parameters, body.withField .body]
termination_by structural f => f

/-- A conditional expression, or a binary one. -/
def ternary : Nat → Read Syntax
  | 0 => fail
  | fuel + 1 => do
    let start ← startByte
    let cond ← binary fuel 4
    if ← sym "?" then
      discard bump
      let yes ← expression fuel
      expect ":"
      let no ← expression fuel
      finish .ternaryExpression start [cond.withField .condition, yes, no]
    else return cond
termination_by structural f => f

/-- Binary and `instanceof` expressions whose operators bind at least as tightly as `minPrec`. -/
def binary : Nat → Nat → Read Syntax
  | 0, _ => fail
  | fuel + 1, minPrec => do
    let start ← startByte
    let left ← unary fuel
    binaryRest fuel minPrec start left
termination_by structural f _ => f

/-- Extends a left operand by operators of precedence at least `minPrec`, left to right. -/
def binaryRest : Nat → Nat → Nat → Syntax → Read Syntax
  | 0, _, _, _ => fail
  | fuel + 1, minPrec, start, left => do
    if (← word "instanceof") && minPrec ≤ 10 then
      discard bump
      if ← word "final" then discard bump
      let rhs ← instanceofTarget fuel
      let node ← finish .instanceofExpression start (left.withField .left :: rhs)
      binaryRest fuel minPrec start node
    else
      match ← operatorAhead with
      | some (op, n) =>
        match binaryPrecedence op with
        | some prec =>
          if prec < minPrec then return left
          else
            for _ in [0:n] do discard bump
            let rstart ← startByte
            let r ← unary fuel
            let right ← binaryRest fuel (prec + 1) rstart r
            let node ← finish .binaryExpression start
              [left.withField .left, right.withField .right]
            binaryRest fuel minPrec start node
        | none => return left
      | none => return left
termination_by structural f _ _ _ => f

/-- The type and optional name, or the record pattern, after `instanceof`. -/
def instanceofTarget : Nat → Read (List Syntax)
  | 0 => fail
  | fuel + 1 => do
    let ty ← anyType fuel
    if ← sym "(" then
      let p ← recordPatternRest fuel ty.start ty
      return [p]
    else if ← atIdentifier then
      let name ← identifier
      return [ty.withField .right, name.withField .name]
    else return [ty.withField .right]
termination_by structural f => f

/-- A unary expression: prefix operators, casts, and operand updates. -/
def unary : Nat → Read Syntax
  | 0 => fail
  | fuel + 1 => do
    let start ← startByte
    match ← peek with
    | some t =>
      if t.kind == .symbol && ["+", "-", "!", "~"].contains t.text then
        discard bump
        let operand ← unary fuel
        finish .unaryExpression start [operand]
      else if t.kind == .symbol && ["++", "--"].contains t.text then
        discard bump
        let operand ← unary fuel
        finish .updateExpression start [operand]
      else if t.kind == .symbol && t.text == "(" then
        match ← attempt (cast fuel) with
        | some c => return c
        | none => operand fuel
      else if t.kind == .word && t.text == "switch" then switchExpression fuel
      else operand fuel
    | none => fail
termination_by structural f => f

/-- A cast: a parenthesised type (or intersection of types) before an operand. -/
def cast : Nat → Read Syntax
  | 0 => fail
  | fuel + 1 => do
    let start ← startByte
    expect "("
    let first ← anyType fuel
    let more ← boundTypes fuel []
    expect ")"
    let primitive := [Kind.integralType, .floatingPointType, .booleanType].contains first.kind && more.isEmpty
    match ← peek with
    | some t =>
      if primitive || startsCastOperand t then
        if ← lookahead (lambdaHead fuel) then
          let value ← lambda fuel
          finish .castExpression start ((first :: more).map (·.withField .type) ++ [value.withField .value])
        else
          let value ← unary fuel
          finish .castExpression start ((first :: more).map (·.withField .type) ++ [value.withField .value])
      else fail
    | none => fail
termination_by structural f => f

/-- A primary expression with its operand `++` and `--`. -/
def operand : Nat → Read Syntax
  | 0 => fail
  | fuel + 1 => do
    let start ← startByte
    let p ← primary fuel
    updatesAfter fuel start p
termination_by structural f => f

/-- Postfix updates after an operand. -/
def updatesAfter : Nat → Nat → Syntax → Read Syntax
  | 0, _, _ => fail
  | fuel + 1, start, acc => do
    if (← sym "++") || (← sym "--") then
      discard bump
      let u ← finish .updateExpression start [acc]
      updatesAfter fuel start u
    else return acc
termination_by structural f _ _ => f

/-- A primary expression with its member accesses, calls and indexes. -/
def primary : Nat → Read Syntax
  | 0 => fail
  | fuel + 1 => do
    let start ← startByte
    let atom ← primaryAtom fuel
    selectors fuel start atom
termination_by structural f => f

/-- The first part of a primary expression. -/
def primaryAtom : Nat → Read Syntax
  | 0 => fail
  | fuel + 1 => do
    let start ← startByte
    let t ← match ← peek with
      | some t => pure t
      | none => fail
    match t.kind with
    | .number k => discard bump; return leaf k.kind t
    | .character => discard bump; return leaf .characterLiteral t
    | .string parts textBlock _ =>
      discard bump
      -- an embedded expression is read from its own tokens; one that does not read as an
      -- expression leaves its node empty
      return stringNode t parts textBlock fun p =>
        let inner := tokenize.go p.inner.toList (p.start + 2) #[]
        let expr := match Read.runFrom (expression fuel) inner 0 with
          | .ok (e, c) => if c.next == inner.size then [e] else []
          | .error _ => []
        .node .stringInterpolation none ⟨p.start, p.stop⟩ expr
    | .symbol =>
      if t.text == "(" then
        discard bump
        let e ← expression fuel
        expect ")"
        finish .parenthesizedExpression start [e]
      else if t.text == "@" then
        -- an annotated type before `::` or `.class`
        let ty ← anyType fuel
        typeSuffix fuel start ty
      else fail
    | .invalid => fail
    | .word =>
      match t.text with
      | "true" => discard bump; return leaf .true t
      | "false" => discard bump; return leaf .false t
      | "null" => discard bump; return leaf .nullLiteral t
      | "this" =>
        discard bump
        if ← sym "(" then fail
        return leaf .this t
      | "super" =>
        discard bump
        if (← sym ".") || (← sym "::") then return leaf .super t else fail
      | "new" => creation fuel start none
      | _ =>
        match primitiveKind? t.text with
        | some _ =>
          let ty ← unannotatedType fuel
          typeSuffix fuel start ty
        | none =>
          if !isIdentifier t then fail
          -- a generic or array type before `::` or `.class`
          if (← symAt 1 "<") || ((← symAt 1 "[") && (← symAt 2 "]")) then
            match ← attempt (do let ty ← unannotatedType fuel; typeSuffix fuel start ty) with
            | some e => return e
            | none => pure ()
          discard bump
          let name := leaf .identifier t
          if ← sym "(" then
            let args ← argumentList fuel
            finish .methodInvocation start [name.withField .name, args.withField .arguments]
          else return name
termination_by structural f => f

/-- What may follow a type in an expression: `.class` or `::`. -/
def typeSuffix : Nat → Nat → Syntax → Read Syntax
  | 0, _, _ => fail
  | fuel + 1, start, ty => do
    if (← sym ".") && (← wordAt 1 "class") then
      discard bump; discard bump
      finish .classLiteral start [ty]
    else if ← sym "::" then methodReferenceRest fuel start ty
    else fail
termination_by structural f _ _ => f

/-- The part of a method reference after its qualifier. -/
def methodReferenceRest : Nat → Nat → Syntax → Read Syntax
  | 0, _, _ => fail
  | fuel + 1, start, qualifier => do
    expect "::"
    let args ← if ← sym "<" then (do pure [← typeArguments fuel]) else pure []
    if ← word "new" then
      discard bump
      finish .methodReference start (qualifier :: args)
    else
      let name ← identifier
      finish .methodReference start (qualifier :: args ++ [name])
termination_by structural f _ _ => f

/-- Member accesses, calls, indexes and method references after a primary expression. -/
def selectors : Nat → Nat → Syntax → Read Syntax
  | 0, _, _ => fail
  | fuel + 1, start, acc => do
    let constructorCall ← lookahead do
      expect "."
      if ← sym "<" then discard (typeArguments fuel)
      expectWord "super"
      expect "("
    if constructorCall then return acc
    if ← sym "." then
      if ← wordAt 1 "class" then
        match asType acc with
        | some ty =>
          discard bump; discard bump
          let lit ← finish .classLiteral start [ty]
          selectors fuel start lit
        | none => fail
      else if ← wordAt 1 "new" then
        discard bump
        let c ← creation fuel start (some acc)
        selectors fuel start c
      else if ← wordAt 1 "this" then
        discard bump
        let t ← bump
        let f ← finish .fieldAccess start [acc.withField .object, (leaf .this t).withField .field]
        selectors fuel start f
      else if ← wordAt 1 "super" then
        discard bump
        let s ← bump
        let superNode := leaf .super s
        if ← sym "::" then
          let r ← methodReferenceRest fuel start superNode
          selectors fuel start r
        else
          expect "."
          let targs ← if ← sym "<" then (do pure [← typeArguments fuel]) else pure []
          let name ← identifier
          if ← sym "(" then
            let args ← argumentList fuel
            let m ← finish .methodInvocation start
              ([acc.withField .object, superNode] ++ targs ++ [name.withField .name, args.withField .arguments])
            selectors fuel start m
          else
            let f ← finish .fieldAccess start [acc.withField .object, superNode, name.withField .field]
            selectors fuel start f
      else
        discard bump
        let targs ← if ← sym "<" then (do pure [← typeArguments fuel]) else pure []
        let name ← identifier
        if ← sym "(" then
          let args ← argumentList fuel
          let m ← finish .methodInvocation start
            ([acc.withField .object] ++ targs ++ [name.withField .name, args.withField .arguments])
          selectors fuel start m
        else if targs.isEmpty then
          let f ← finish .fieldAccess start [acc.withField .object, name.withField .field]
          selectors fuel start f
        else fail
    else if ← sym "[" then
      if ← symAt 1 "]" then
        -- an array type before `::` or `.class`
        match asType acc with
        | some ty =>
          let d ← dimensions fuel
          let arr ← finish .arrayType start [ty.withField .element, d.withField .dimensions]
          typeSuffix fuel start arr
        | none => fail
      else
        discard bump
        let index ← expression fuel
        expect "]"
        let a ← finish .arrayAccess start [acc, index]
        selectors fuel start a
    else if ← sym "::" then
      let r ← methodReferenceRest fuel start acc
      selectors fuel start r
    else return acc
termination_by structural f _ _ => f

/-- An object or array creation after `new`; `outer` is the qualifying expression of
`outer.new Inner()`. -/
def creation : Nat → Nat → Option Syntax → Read Syntax
  | 0, _, _ => fail
  | fuel + 1, start, outer => do
    expectWord "new"
    let targs ← if ← sym "<" then (do pure [← typeArguments fuel]) else pure []
    let annotations ← annotationsBefore fuel []
    let ty ← simpleType fuel
    if (← sym "[") || ((← sym "@") && !(← wordAt 1 "interface")) then
      let dims ← arrayCreationDimensions fuel []
      if (← sym "\x7b") then
        let init ← arrayInitializer fuel
        finish .arrayCreationExpression start
          (annotations ++ [ty.withField .type] ++ dims ++ [init.withField .value])
      else finish .arrayCreationExpression start (annotations ++ [ty.withField .type] ++ dims)
    else
      let args ← argumentList fuel
      let body ← if ← sym "\x7b" then (do pure [← classBody fuel]) else pure []
      let qualifierPart := match outer with
        | some o => [o]
        | none => []
      finish .objectCreationExpression start
        (qualifierPart ++ targs ++ annotations ++ [ty.withField .type, args.withField .arguments] ++ body)
termination_by structural f _ _ => f

/-- The bracket groups of an array creation: sized ones, then empty ones. -/
def arrayCreationDimensions : Nat → List Syntax → Read (List Syntax)
  | 0, _ => fail
  | fuel + 1, acc => do
    let save ← position
    let start ← startByte
    let annotations ← annotationsBefore fuel []
    if (← sym "[") && !(← symAt 1 "]") then
      discard bump
      let e ← expression fuel
      expect "]"
      let d ← finish .dimensionsExpr start (annotations ++ [e])
      arrayCreationDimensions fuel (d :: acc)
    else
      seek save
      if (← sym "[") || (← sym "@") then
        let d ← dimensions fuel
        return (d :: acc).reverse
      else return acc.reverse
termination_by structural f _ => f

/-- An argument list. -/
def argumentList : Nat → Read Syntax
  | 0 => fail
  | fuel + 1 => do
    let start ← startByte
    expect "("
    if ← optional ")" then return ← finish .argumentList start []
    let items ← expressionList fuel []
    expect ")"
    finish .argumentList start items
termination_by structural f => f

/-- Expressions separated by commas. -/
def expressionList : Nat → List Syntax → Read (List Syntax)
  | 0, _ => fail
  | fuel + 1, acc => do
    let e ← expression fuel
    if ← optional "," then expressionList fuel (e :: acc) else return (e :: acc).reverse
termination_by structural f _ => f

/-- An array initializer: `{a, b,}`. -/
def arrayInitializer : Nat → Read Syntax
  | 0 => fail
  | fuel + 1 => do
    let start ← startByte
    expect "\x7b"
    let items ← initializerList fuel []
    expect "\x7d"
    finish .arrayInitializer start items
termination_by structural f => f

/-- Variable initializers separated by commas, an extra comma allowed. -/
def initializerList : Nat → List Syntax → Read (List Syntax)
  | 0, _ => fail
  | fuel + 1, acc => do
    if ← sym "\x7d" then return acc.reverse
    let v ← variableInitializer fuel
    if ← optional "," then initializerList fuel (v :: acc) else return (v :: acc).reverse
termination_by structural f _ => f

/-- An expression or an array initializer. -/
def variableInitializer : Nat → Read Syntax
  | 0 => fail
  | fuel + 1 => do
    if ← sym "\x7b" then arrayInitializer fuel else expression fuel
termination_by structural f => f

/-- A switch expression (also used as a statement). -/
def switchExpression : Nat → Read Syntax
  | 0 => fail
  | fuel + 1 => do
    let start ← startByte
    expectWord "switch"
    let cond ← parenthesized fuel
    let body ← switchBlock fuel
    finish .switchExpression start [cond.withField .condition, body.withField .body]
termination_by structural f => f

/-- A parenthesised expression. -/
def parenthesized : Nat → Read Syntax
  | 0 => fail
  | fuel + 1 => do
    let start ← startByte
    expect "("
    let e ← expression fuel
    expect ")"
    finish .parenthesizedExpression start [e]
termination_by structural f => f

/-- The body of a switch: groups of statements under labels, or rules. -/
def switchBlock : Nat → Read Syntax
  | 0 => fail
  | fuel + 1 => do
    let start ← startByte
    expect "\x7b"
    let items ← switchItems fuel []
    expect "\x7d"
    finish .switchBlock start items
termination_by structural f => f

/-- The groups or rules of a switch body. -/
def switchItems : Nat → List Syntax → Read (List Syntax)
  | 0, _ => fail
  | fuel + 1, acc => do
    if (← sym "\x7d") || (← atEnd) then return acc.reverse
    let start ← startByte
    let label ← switchLabel fuel
    if ← optional "->" then
      let body ←
        if ← sym "\x7b" then block fuel
        else if ← word "throw" then statementCore fuel
        else
          let estart ← startByte
          let e ← expression fuel
          expect ";"
          finish .expressionStatement estart [e]
      let rule ← finish .switchRule start [label, body]
      switchItems fuel (rule :: acc)
    else
      expect ":"
      let body ← groupStatements fuel []
      let group ← finish .switchBlockStatementGroup start (label :: body)
      switchItems fuel (group :: acc)
termination_by structural f _ => f

/-- The statements of a switch group, up to the next label. -/
def groupStatements : Nat → List Syntax → Read (List Syntax)
  | 0, _ => fail
  | fuel + 1, acc => do
    if (← sym "\x7d") || (← word "case") || (← word "default") && ((← symAt 1 ":") || (← symAt 1 "->")) || (← atEnd) then
      return acc.reverse
    match ← statement fuel with
    | none => groupStatements fuel acc
    | some s => groupStatements fuel (s :: acc)
termination_by structural f _ => f

/-- A switch label: `default`, or `case` with expressions or a pattern and a guard. -/
def switchLabel : Nat → Read Syntax
  | 0 => fail
  | fuel + 1 => do
    let start ← startByte
    if ← word "default" then
      discard bump
      finish .switchLabel start []
    else
      expectWord "case"
      match ← attempt (casePattern fuel) with
      | some p =>
        let g ← guardClause fuel
        finish .switchLabel start (p :: g)
      | none =>
        let items ← caseValues fuel []
        let g ← guardClause fuel
        finish .switchLabel start (items ++ g)
termination_by structural f => f

/-- The values of a case label. They stop before the arrow of a rule, which is therefore never
read as the arrow of a lambda. The word `default` cannot start an expression, so here it is
read as a name, as in `case null, default`. -/
def caseValues : Nat → List Syntax → Read (List Syntax)
  | 0, _ => fail
  | fuel + 1, acc => do
    let e ← if ← word "default" then (do pure (leaf .identifier (← bump))) else ternary fuel
    if ← optional "," then caseValues fuel (e :: acc) else return (e :: acc).reverse
termination_by structural f _ => f

/-- A `when` guard after a case pattern. -/
def guardClause : Nat → Read (List Syntax)
  | 0 => fail
  | fuel + 1 => do
    if ← word "when" then
      let start ← startByte
      discard bump
      let e ← expression fuel
      return [← finish .guard start [e]]
    else return []
termination_by structural f => f

/-- A type pattern or record pattern in a case label. -/
def casePattern : Nat → Read Syntax
  | 0 => fail
  | fuel + 1 => do
    let start ← startByte
    let mods ← modifiers fuel
    let ty ← unannotatedType fuel
    if ← sym "(" then
      let r ← recordPatternRest fuel start ty
      finish .pattern start [r]
    else
      let name ← identifier
      if !((← sym "->") || (← sym ":") || (← word "when") || (← sym ",")) then fail
      let tp ← finish .typePattern start (mods.toList ++ [ty, name])
      finish .pattern start [tp]
termination_by structural f => f

/-- The components of a record pattern after its type. -/
def recordPatternRest : Nat → Nat → Syntax → Read Syntax
  | 0, _, _ => fail
  | fuel + 1, start, ty => do
    let bstart ← startByte
    expect "("
    let comps ← recordComponents fuel []
    expect ")"
    let body ← finish .recordPatternBody bstart comps
    finish .recordPattern start [ty, body]
termination_by structural f _ _ => f

/-- The components of a record pattern: `_`, a type and a name, or a nested record pattern. -/
def recordComponents : Nat → List Syntax → Read (List Syntax)
  | 0, _ => fail
  | fuel + 1, acc => do
    if ← sym ")" then return acc.reverse
    let start ← startByte
    let comp ←
      if ← word "_" then
        discard bump
        let u ← finish .underscorePattern start []
        finish .recordPatternComponent start [u]
      else
        let ty ← unannotatedType fuel
        if ← sym "(" then recordPatternRest fuel start ty
        else
          let name ← identifier
          finish .recordPatternComponent start [ty, name]
    if ← optional "," then recordComponents fuel (comp :: acc) else return (comp :: acc).reverse
termination_by structural f _ => f

/-- A block: statements between braces. -/
def block : Nat → Read Syntax
  | 0 => fail
  | fuel + 1 => do
    let start ← startByte
    expect "\x7b"
    let items ← blockStatements fuel []
    expect "\x7d"
    finish .block start items
termination_by structural f => f

/-- The position after the tokens from `k` on that alternate names and dots, starting with a
name when `name` is set. -/
def alternating (toks : Array Token) (k : Nat) (name : Bool) : Nat → Nat
  | 0 => k
  | fuel + 1 =>
    match toks[k]? with
    | some t =>
      if name && isIdentifier t then alternating toks (k + 1) false fuel
      else if !name && t.kind == .symbol && t.text == "." then alternating toks (k + 1) true fuel
      else k
    | none => k

/-- Where a block goes on when the statement from position `s` starts with a dotted name that
runs into an invalid character. Such a statement is read both as the type of a local variable
and as an expression, and at the invalid character the type is the reading that recovers: when
a name stands right before the character, or right after it behind a dot, the type takes the
name, the character and the rest of the dotted name, which all drop out, and the block goes on
after them. -/
def brokenTypeEnd (toks : Array Token) (s : Nat) : Option Nat :=
  let r := alternating toks s true (toks.size + 1)
  let before := toks[r - 1]?
  let afterDot := (before.any fun t => t.kind == .symbol && t.text == ".") &&
    (toks[r + 1]?.any isIdentifier)
  if (toks[r]?.any (·.kind == .invalid)) && s + 2 ≤ r && ((before.any isIdentifier) || afterDot) then
    some (alternating toks (r + 1) afterDot (toks.size + 1))
  else none

/-- The statements of a block, up to its closing brace. -/
def blockStatements : Nat → List Syntax → Read (List Syntax)
  | 0, _ => fail
  | fuel + 1, acc => do
    if (← sym "\x7d") || (← atEnd) then return acc.reverse
    match brokenTypeEnd (← read) (← position) with
    | some e =>
      seek e
      blockStatements fuel acc
    | none =>
      match ← readRepaired (statement fuel) continuesBlock with
      | none => blockStatements fuel acc
      | some s => blockStatements fuel (s :: acc)
termination_by structural f _ => f

/-- A statement; an empty statement `;` leaves no node. -/
def statement : Nat → Read (Option Syntax)
  | 0 => fail
  | fuel + 1 => do
    if ← sym ";" then
      discard bump
      return none
    some <$> statementCore fuel
termination_by structural f => f

/-- A statement other than the empty one. -/
def statementCore : Nat → Read Syntax
  | 0 => fail
  | fuel + 1 => do
    let start ← startByte
    let t ← match ← peek with
      | some t => pure t
      | none => fail
    if t.kind == .symbol && t.text == "\x7b" then return ← block fuel
    if t.kind == .word then
      match t.text with
      | "if" =>
        discard bump
        let cond ← parenthesized fuel
        let yes ← statement fuel
        if ← word "else" then
          discard bump
          let no ← statement fuel
          return ← finish .ifStatement start (cond.withField .condition :: yes.toList ++ no.toList)
        else return ← finish .ifStatement start (cond.withField .condition :: yes.toList)
      | "while" =>
        discard bump
        let cond ← parenthesized fuel
        let body ← statement fuel
        return ← finish .whileStatement start (cond.withField .condition :: (body.map (·.withField .body)).toList)
      | "do" =>
        discard bump
        let body ← statement fuel
        expectWord "while"
        let cond ← parenthesized fuel
        expect ";"
        return ← finish .doStatement start ((body.map (·.withField .body)).toList ++ [cond.withField .condition])
      | "for" => return ← forStatement fuel
      | "return" =>
        discard bump
        if ← optional ";" then return ← finish .returnStatement start []
        let e ← expression fuel
        expect ";"
        return ← finish .returnStatement start [e]
      | "break" | "continue" =>
        discard bump
        let label ← if ← atIdentifier then (do pure [← identifier]) else pure []
        expect ";"
        return ← finish (if t.text == "break" then .breakStatement else .continueStatement) start label
      | "throw" =>
        discard bump
        let e ← expression fuel
        expect ";"
        return ← finish .throwStatement start [e]
      | "assert" =>
        discard bump
        let e ← expression fuel
        if ← optional ":" then
          let m ← expression fuel
          expect ";"
          return ← finish .assertStatement start [e, m]
        expect ";"
        return ← finish .assertStatement start [e]
      | "try" => return ← tryStatement fuel
      | "switch" => return ← switchExpression fuel
      | "synchronized" =>
        if ← symAt 1 "(" then
          discard bump
          let lock ← parenthesized fuel
          let body ← block fuel
          return ← finish .synchronizedStatement start [lock, body.withField .body]
      | "yield" =>
        let next ← peekAt 1
        let isStatement : Bool := match next with
          | some n => startsExpression n && !(n.kind == .symbol && ["=", "(", "[", ".", "++", "--", "+=", "-="].contains n.text)
          | none => false
        if isStatement then
          discard bump
          let e ← expression fuel
          expect ";"
          return ← finish .yieldStatement start [e]
      | _ => pure ()
      if (← atIdentifier) && (← symAt 1 ":") && !(← symAt 1 "::") then
        let label ← identifier
        expect ":"
        let body ← statement fuel
        return ← finish .labeledStatement start (label :: body.toList)
    -- declarations: local classes and variables
    match ← attempt (declarationStatement fuel) with
    | some d => return d
    | none =>
      let e ← expression fuel
      expect ";"
      finish .expressionStatement start [e]
termination_by structural f => f

/-- A declaration in statement position: a local class, interface, enum, record, or a local
variable declaration. -/
def declarationStatement : Nat → Read Syntax
  | 0 => fail
  | fuel + 1 => do
    let start ← startByte
    let mods ← modifiers fuel
    match ← typeDeclaration fuel start mods with
    | some d => return d
    | none =>
      let ty ← unannotatedType fuel
      if !(← atVariableName) then fail
      if !((← symAt 1 "=") || (← symAt 1 ",") || (← symAt 1 ";") || (← symAt 1 "[") || (← symAt 1 ":")) then
        -- the name is taken, and the reading stops at the token after it
        discard bump
        fail
      let decls ← declarators fuel []
      expect ";"
      finish .localVariableDeclaration start (mods.toList ++ [ty.withField .type] ++ decls)
termination_by structural f => f

/-- A class-like declaration after its modifiers, if one starts here. -/
def typeDeclaration : Nat → Nat → Option Syntax → Read (Option Syntax)
  | 0, _, _ => fail
  | fuel + 1, start, mods => do
    if ← word "class" then some <$> classDeclaration fuel start mods
    else if ← word "interface" then some <$> interfaceDeclaration fuel start mods
    else if ← word "enum" then some <$> enumDeclaration fuel start mods
    else if (← word "record") && (← identifierAt 1) then some <$> recordDeclaration fuel start mods
    else if (← sym "@") && (← wordAt 1 "interface") then
      some <$> annotationTypeDeclaration fuel start mods
    else return none
termination_by structural f _ _ => f

/-- Variable declarators separated by commas. -/
def declarators : Nat → List Syntax → Read (List Syntax)
  | 0, _ => fail
  | fuel + 1, acc => do
    let start ← startByte
    let name ← variableName
    let dims ← if ← sym "[" then (do pure [(← dimensions fuel).withField .dimensions]) else pure []
    let value ←
      if ← optional "=" then (do pure [(← variableInitializer fuel).withField .value]) else pure []
    let d ← finish .variableDeclarator start ([name.withField .name] ++ dims ++ value)
    if ← optional "," then declarators fuel (d :: acc) else return (d :: acc).reverse
termination_by structural f _ => f

/-- A `for` statement, plain or enhanced. -/
def forStatement : Nat → Read Syntax
  | 0 => fail
  | fuel + 1 => do
    let start ← startByte
    expectWord "for"
    expect "("
    match ← attempt (enhancedForHead fuel) with
    | some head =>
      let body ← statement fuel
      finish .enhancedForStatement start (head ++ (body.map (·.withField .body)).toList)
    | none =>
      let init ←
        if ← optional ";" then pure []
        else
          match ← attempt (declarationStatement fuel) with
          | some d => pure [d]
          | none =>
            let es ← expressionList fuel []
            expect ";"
            pure es
      let cond ← if ← sym ";" then pure [] else (do pure [(← expression fuel).withField .condition])
      expect ";"
      let updates ← if ← sym ")" then pure [] else expressionList fuel []
      expect ")"
      let body ← statement fuel
      finish .forStatement start (init ++ cond ++ updates ++ (body.map (·.withField .body)).toList)
termination_by structural f => f

/-- The head of an enhanced `for`: modifiers, type, name, `:` and the iterated value. -/
def enhancedForHead : Nat → Read (List Syntax)
  | 0 => fail
  | fuel + 1 => do
    let mods ← modifiers fuel
    let ty ← unannotatedType fuel
    let name ← identifier
    let dims ← if ← sym "[" then (do pure [(← dimensions fuel).withField .dimensions]) else pure []
    expect ":"
    let value ← expression fuel
    expect ")"
    return mods.toList ++ [ty.withField .type, name.withField .name] ++ dims ++ [value.withField .value]
termination_by structural f => f

/-- A `try` statement, with or without resources. -/
def tryStatement : Nat → Read Syntax
  | 0 => fail
  | fuel + 1 => do
    let start ← startByte
    expectWord "try"
    if ← sym "(" then
      let rstart ← startByte
      discard bump
      let resources ← resourceList fuel []
      expect ")"
      let spec ← finish .resourceSpecification rstart resources
      let body ← block fuel
      let catches ← catchClauses fuel []
      let fin ← finallyClause fuel
      finish .tryWithResourcesStatement start ([spec, body.withField .body] ++ catches ++ fin)
    else
      let body ← block fuel
      let catches ← catchClauses fuel []
      let fin ← finallyClause fuel
      if catches.isEmpty && fin.isEmpty then fail
      finish .tryStatement start ([body.withField .body] ++ catches ++ fin)
termination_by structural f => f

/-- The resources of a `try`, separated by semicolons. -/
def resourceList : Nat → List Syntax → Read (List Syntax)
  | 0, _ => fail
  | fuel + 1, acc => do
    if ← sym ")" then return acc.reverse
    let start ← startByte
    let r ← match ← attempt (do
        let mods ← modifiers fuel
        let ty ← unannotatedType fuel
        let name ← identifier
        expect "="
        let value ← expression fuel
        finish .resource start (mods.toList ++ [ty.withField .type, name.withField .name, value.withField .value])) with
      | some r => pure r
      | none =>
        let e ← expression fuel
        finish .resource start [e]
    if ← optional ";" then resourceList fuel (r :: acc) else return (r :: acc).reverse
termination_by structural f _ => f

/-- The `catch` clauses of a `try`. -/
def catchClauses : Nat → List Syntax → Read (List Syntax)
  | 0, _ => fail
  | fuel + 1, acc => do
    if ← word "catch" then
      let start ← startByte
      discard bump
      expect "("
      let pstart ← startByte
      let mods ← modifiers fuel
      let tstart ← startByte
      let first ← unannotatedType fuel
      let more ← catchTypes fuel []
      let ctype ← finish .catchType tstart (first :: more)
      let name ← identifier
      let dims ← if ← sym "[" then (do pure [(← dimensions fuel).withField .dimensions]) else pure []
      let param ← finish .catchFormalParameter pstart (mods.toList ++ [ctype, name.withField .name] ++ dims)
      expect ")"
      let body ← block fuel
      let c ← finish .catchClause start [param, body.withField .body]
      catchClauses fuel (c :: acc)
    else return acc.reverse
termination_by structural f _ => f

/-- The alternative types of a multi-catch, after `|`. -/
def catchTypes : Nat → List Syntax → Read (List Syntax)
  | 0, _ => fail
  | fuel + 1, acc => do
    if ← optional "|" then
      let t ← unannotatedType fuel
      catchTypes fuel (t :: acc)
    else return acc.reverse
termination_by structural f _ => f

/-- A `finally` clause, if there is one. -/
def finallyClause : Nat → Read (List Syntax)
  | 0 => fail
  | fuel + 1 => do
    if ← word "finally" then
      let start ← startByte
      discard bump
      let body ← block fuel
      return [← finish .finallyClause start [body]]
    else return []
termination_by structural f => f

/-- A class declaration after its modifiers. -/
def classDeclaration : Nat → Nat → Option Syntax → Read Syntax
  | 0, _, _ => fail
  | fuel + 1, start, mods => do
    expectWord "class"
    let name ← identifier
    let tparams ← if ← sym "<" then (do pure [← typeParameters fuel]) else pure []
    let sup ←
      if ← word "extends" then
        let s ← startByte
        discard bump
        let t ← anyType fuel
        pure [← finish .superclass s [t]]
      else pure []
    let ifaces ← clause fuel "implements" .superInterfaces
    let permits ← clause fuel "permits" .permits
    let body ← classBody fuel
    finish .classDeclaration start
      (mods.toList ++ [name.withField .name] ++ tparams ++ sup ++ ifaces ++ permits ++ [body.withField .body])
termination_by structural f _ _ => f

/-- A clause of a keyword and a type list, such as `implements A, B`. -/
def clause : Nat → String → Kind → Read (List Syntax)
  | 0, _, _ => fail
  | fuel + 1, keyword, kind => do
    if ← word keyword then
      let s ← startByte
      discard bump
      let lstart ← startByte
      let types ← typeList fuel []
      let list ← finish .typeList lstart types
      return [← finish kind s [list]]
    else return []
termination_by structural f _ _ => f

/-- An interface declaration after its modifiers. -/
def interfaceDeclaration : Nat → Nat → Option Syntax → Read Syntax
  | 0, _, _ => fail
  | fuel + 1, start, mods => do
    expectWord "interface"
    let name ← identifier
    let tparams ← if ← sym "<" then (do pure [← typeParameters fuel]) else pure []
    let ext ← clause fuel "extends" .extendsInterfaces
    let permits ← clause fuel "permits" .permits
    let bstart ← startByte
    expect "\x7b"
    let items ← classBodyItems fuel []
    expect "\x7d"
    let body ← finish .interfaceBody bstart items
    finish .interfaceDeclaration start
      (mods.toList ++ [name.withField .name] ++ tparams ++ ext ++ permits ++ [body.withField .body])
termination_by structural f _ _ => f

/-- An enum declaration after its modifiers. -/
def enumDeclaration : Nat → Nat → Option Syntax → Read Syntax
  | 0, _, _ => fail
  | fuel + 1, start, mods => do
    expectWord "enum"
    let name ← identifier
    let ifaces ← clause fuel "implements" .superInterfaces
    let bstart ← startByte
    expect "\x7b"
    let constants ← enumConstants fuel []
    discard (optional ",")
    let decls ←
      if ← sym ";" then
        let dstart ← startByte
        discard bump
        let items ← classBodyItems fuel []
        pure [← finish .enumBodyDeclarations dstart items]
      else pure []
    expect "\x7d"
    let body ← finish .enumBody bstart (constants ++ decls)
    finish .enumDeclaration start (mods.toList ++ [name.withField .name] ++ ifaces ++ [body.withField .body])
termination_by structural f _ _ => f

/-- The constants of an enum, separated by commas. -/
def enumConstants : Nat → List Syntax → Read (List Syntax)
  | 0, _ => fail
  | fuel + 1, acc => do
    if (← sym ";") || (← sym "\x7d") then return acc.reverse
    let start ← startByte
    let mods ← modifiers fuel
    let name ← identifier
    let args ← if ← sym "(" then (do pure [(← argumentList fuel).withField .arguments]) else pure []
    let body ← if ← sym "\x7b" then (do pure [(← classBody fuel).withField .body]) else pure []
    let c ← finish .enumConstant start (mods.toList ++ [name.withField .name] ++ args ++ body)
    if (← sym ",") && !((← symAt 1 ";") || (← symAt 1 "\x7d")) then
      discard bump
      enumConstants fuel (c :: acc)
    else return (c :: acc).reverse
termination_by structural f _ => f

/-- A record declaration after its modifiers. -/
def recordDeclaration : Nat → Nat → Option Syntax → Read Syntax
  | 0, _, _ => fail
  | fuel + 1, start, mods => do
    expectWord "record"
    let name ← identifier
    let tparams ← if ← sym "<" then (do pure [← typeParameters fuel]) else pure []
    let params ← formalParameters fuel
    let ifaces ← clause fuel "implements" .superInterfaces
    let body ← classBody fuel
    finish .recordDeclaration start
      (mods.toList ++ [name.withField .name] ++ tparams ++ [params.withField .parameters] ++ ifaces ++ [body.withField .body])
termination_by structural f _ _ => f

/-- An annotation type declaration after its modifiers. -/
def annotationTypeDeclaration : Nat → Nat → Option Syntax → Read Syntax
  | 0, _, _ => fail
  | fuel + 1, start, mods => do
    expect "@"
    expectWord "interface"
    let name ← identifier
    let bstart ← startByte
    expect "\x7b"
    let items ← annotationTypeItems fuel []
    expect "\x7d"
    let body ← finish .annotationTypeBody bstart items
    finish .annotationTypeDeclaration start (mods.toList ++ [name.withField .name, body.withField .body])
termination_by structural f _ _ => f

/-- The members of an annotation type. -/
def annotationTypeItems : Nat → List Syntax → Read (List Syntax)
  | 0, _ => fail
  | fuel + 1, acc => do
    if (← sym "\x7d") || (← atEnd) then return acc.reverse
    if ← optional ";" then return ← annotationTypeItems fuel acc
    let start ← startByte
    let mods ← modifiers fuel
    match ← typeDeclaration fuel start mods with
    | some d => annotationTypeItems fuel (d :: acc)
    | none =>
      let ty ← unannotatedType fuel
      if (← atIdentifier) && (← symAt 1 "(") then
        let name ← identifier
        expect "("
        expect ")"
        let dims ← if ← sym "[" then (do pure [(← dimensions fuel).withField .dimensions]) else pure []
        let dflt ←
          if ← word "default" then
            discard bump
            pure [(← elementValue fuel).withField .value]
          else pure []
        expect ";"
        let e ← finish .annotationTypeElementDeclaration start
          (mods.toList ++ [ty.withField .type, name.withField .name] ++ dims ++ dflt)
        annotationTypeItems fuel (e :: acc)
      else
        let decls ← declarators fuel []
        expect ";"
        let c ← finish .constantDeclaration start (mods.toList ++ [ty.withField .type] ++ decls)
        annotationTypeItems fuel (c :: acc)
termination_by structural f _ => f

/-- A class body. -/
def classBody : Nat → Read Syntax
  | 0 => fail
  | fuel + 1 => do
    let start ← startByte
    expect "\x7b"
    let items ← classBodyItems fuel []
    expect "\x7d"
    finish .classBody start items
termination_by structural f => f

/-- The members of a class body, up to its closing brace. -/
def classBodyItems : Nat → List Syntax → Read (List Syntax)
  | 0, _ => fail
  | fuel + 1, acc => do
    if (← sym "\x7d") || (← atEnd) then return acc.reverse
    if ← optional ";" then return ← classBodyItems fuel acc
    match ← readRepaired (some <$> member fuel) continuesClassBody with
    | some m => classBodyItems fuel (m :: acc)
    | none => classBodyItems fuel acc
termination_by structural f _ => f

/-- One member of a class body: a field, method, constructor, initializer or nested type. -/
def member : Nat → Read Syntax
  | 0 => fail
  | fuel + 1 => do
    let start ← startByte
    if ← sym "\x7b" then return ← block fuel
    if (← word "static") && (← symAt 1 "\x7b") then
      discard bump
      let b ← block fuel
      return ← finish .staticInitializer start [b]
    let mods ← modifiers fuel
    match ← typeDeclaration fuel start mods with
    | some d => return d
    | none =>
      let tparams ← if ← sym "<" then (do pure [← typeParameters fuel]) else pure []
      -- a constructor: a name and parameters
      if (← atIdentifier) && (← symAt 1 "(") then
        let name ← identifier
        let params ← formalParameters fuel
        let throws ← throwsClause fuel
        let body ← constructorBody fuel
        return ← finish .constructorDeclaration start
          (mods.toList ++ tparams ++ [name.withField .name, params.withField .parameters] ++ throws ++ [body.withField .body])
      -- a compact constructor of a record: a name and a block
      if (← atIdentifier) && (← symAt 1 "\x7b") && tparams.isEmpty then
        let name ← identifier
        let body ← block fuel
        return ← finish .compactConstructorDeclaration start (mods.toList ++ [name.withField .name, body.withField .body])
      let tannotations ← if tparams.isEmpty then pure [] else annotationsBefore fuel []
      let ty ← unannotatedType fuel
      if (← atIdentifier) && (← symAt 1 "(") then
        methodRest fuel start (mods.toList ++ tparams ++ tannotations) ty
      else
        let decls ← declarators fuel []
        expect ";"
        finish .fieldDeclaration start (mods.toList ++ [ty.withField .type] ++ decls)
termination_by structural f => f

/-- The rest of a method declaration after its return type. -/
def methodRest : Nat → Nat → List Syntax → Syntax → Read Syntax
  | 0, _, _, _ => fail
  | fuel + 1, start, before, ty => do
    let name ← identifier
    let params ← formalParameters fuel
    let dims ← if (← sym "[") || (← sym "@") then (do pure [(← dimensions fuel).withField .dimensions]) else pure []
    let throws ← throwsClause fuel
    if ← optional ";" then
      finish .methodDeclaration start
        (before ++ [ty.withField .type, name.withField .name, params.withField .parameters] ++ dims ++ throws)
    else
      let body ← block fuel
      finish .methodDeclaration start
        (before ++ [ty.withField .type, name.withField .name, params.withField .parameters] ++ dims ++ throws ++ [body.withField .body])
termination_by structural f _ _ _ => f

/-- A `throws` clause, if there is one. -/
def throwsClause : Nat → Read (List Syntax)
  | 0 => fail
  | fuel + 1 => do
    if ← word "throws" then
      let start ← startByte
      discard bump
      let types ← typeList fuel []
      return [← finish .throws start types]
    else return []
termination_by structural f => f

/-- A constructor body: an optional explicit constructor call, then statements. -/
def constructorBody : Nat → Read Syntax
  | 0 => fail
  | fuel + 1 => do
    let start ← startByte
    expect "\x7b"
    let first ← match ← attempt (explicitConstructorInvocation fuel) with
      | some e => pure [e]
      | none => pure []
    let items ← blockStatements fuel []
    expect "\x7d"
    finish .constructorBody start (first ++ items)
termination_by structural f => f

/-- A call of another constructor: `this(...)`, `super(...)` or `outer.super(...)`. -/
def explicitConstructorInvocation : Nat → Read Syntax
  | 0 => fail
  | fuel + 1 => do
    let start ← startByte
    let targs ← if ← sym "<" then (do pure [← typeArguments fuel]) else pure []
    if (← word "this") || (← word "super") then
      let t ← bump
      let args ← argumentList fuel
      expect ";"
      finish .explicitConstructorInvocation start
        (targs ++ [leaf (if t.text == "this" then .this else .super) t, args.withField .arguments])
    else
      let obj ← primary fuel
      expect "."
      let targs2 ← if ← sym "<" then (do pure [← typeArguments fuel]) else pure []
      let s ← bump
      if s.text != "super" then fail
      let args ← argumentList fuel
      expect ";"
      finish .explicitConstructorInvocation start
        ([obj.withField .object] ++ targs2 ++ [leaf .super s, args.withField .arguments])
termination_by structural f => f

/-- Formal parameters: `(A this, int x, String... rest)`. -/
def formalParameters : Nat → Read Syntax
  | 0 => fail
  | fuel + 1 => do
    let start ← startByte
    expect "("
    if ← optional ")" then return ← finish .formalParameters start []
    let items ← parameterList fuel []
    expect ")"
    finish .formalParameters start items
termination_by structural f => f

/-- Parameters separated by commas. -/
def parameterList : Nat → List Syntax → Read (List Syntax)
  | 0, _ => fail
  | fuel + 1, acc => do
    let p ← formalParameter fuel
    if ← optional "," then parameterList fuel (p :: acc) else return (p :: acc).reverse
termination_by structural f _ => f

/-- One formal parameter: plain, variadic, or the receiver `this`. -/
def formalParameter : Nat → Read Syntax
  | 0 => fail
  | fuel + 1 => do
    let start ← startByte
    let mods ← modifiers fuel
    let ty ← unannotatedType fuel
    if ← sym "..." then
      discard bump
      let dstart ← startByte
      let name ← identifier
      let dims ← if ← sym "[" then (do pure [(← dimensions fuel).withField .dimensions]) else pure []
      let d ← finish .variableDeclarator dstart ([name.withField .name] ++ dims)
      finish .spreadParameter start (mods.toList ++ [ty, d])
    else if ← word "this" then
      let t ← bump
      -- after modifiers the parameter is read as a plain one named by the receiver
      if mods.isSome then
        finish .formalParameter start (mods.toList ++ [ty.withField .type, (leaf .this t).withField .name])
      else finish .receiverParameter start [ty, leaf .this t]
    else if (← atIdentifier) && (← symAt 1 ".") && (← wordAt 2 "this") then
      let q ← identifier
      discard bump
      let t ← bump
      finish .receiverParameter start (mods.toList ++ [ty, q, leaf .this t])
    else
      let name ← identifier
      let dims ← if ← sym "[" then (do pure [(← dimensions fuel).withField .dimensions]) else pure []
      finish .formalParameter start (mods.toList ++ [ty.withField .type, name.withField .name] ++ dims)
termination_by structural f => f

end

/-- A statement at the top of a file: a declaration, a method, or any statement; an empty
statement leaves no node. -/
def topLevel : Nat → Read (Option Syntax)
  | 0 => fail
  | fuel + 1 => do
    let start ← startByte
    if ← word "package" then return some (← packageDeclaration start [])
    if ← word "import" then return some (← importDeclaration)
    if (← word "module") || (← word "open") then
      match ← attempt (moduleDeclaration start []) with
      | some m => return some m
      | none => pure ()
    -- annotations before `package` or a module declaration
    if (← sym "@") && !(← wordAt 1 "interface") then
      match ← attempt (do
          let annotations ← annotationsBefore fuel []
          if ← word "package" then packageDeclaration start annotations
          else moduleDeclaration start annotations) with
      | some p => return some p
      | none => pure ()
    let declaration := do
      let m ← member fuel
      if [Kind.methodDeclaration, .classDeclaration, .interfaceDeclaration, .enumDeclaration,
          .recordDeclaration, .annotationTypeDeclaration].contains m.kind then pure m else fail
    match ← attempt declaration with
    | some m => return some m
    | none => statement fuel

end Java
end ResultLint
