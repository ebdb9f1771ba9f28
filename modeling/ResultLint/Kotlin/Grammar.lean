import ResultLint.Kotlin.Reader

/-!
# Reading Kotlin syntax trees

A recursive-descent reader for the Kotlin grammar that builds its named nodes and byte
ranges.

Line breaks matter in Kotlin: where a statement may end, a line break ends it unless the next
line starts with something that can only continue it (an operator, a dot, an opening bracket,
`else`). `endsStatement` decides this for one token, and every reading function that may stop at
the end of a statement takes a flag `nl` saying whether it is read where a statement may end;
inside brackets line breaks never count.

The statements of a block must be separated by semicolons or line breaks; a reading stops where
two stand on one line. Declarations of a class body must be separated the same way. Where two
stand on one line the reader assumes the missing semicolon and notes where. The notes decide two
recoveries of the grammar: a body with two such gaps of its own loses its members, and a
top-level declaration in which two gaps are separated by closing braces alone is dropped.

Every reading function takes a depth bound (`fuel`), which the entry point sets far above the
nesting any token sequence can reach; a reading that exhausts it fails like one that meets an
unexpected token.
-/

namespace ResultLint
namespace Kotlin

open Read

/-- Words that are never identifiers. -/
def hardKeywords : List String :=
  ["as", "break", "class", "continue", "do", "else", "false", "for", "fun", "if", "in",
   "interface", "is", "null", "object", "package", "return", "super", "this", "throw", "true",
   "try", "typealias", "typeof", "val", "var", "when", "while"]

/-- Keywords that start an expression. -/
def expressionKeywords : List String :=
  ["this", "super", "true", "false", "null", "if", "when", "try", "return", "throw", "break",
   "continue", "fun", "object"]

/-- Words that modify a declaration. -/
def modifierWords : List String :=
  ["public", "private", "internal", "protected", "abstract", "final", "open", "override",
   "lateinit", "sealed", "annotation", "data", "inner", "value", "tailrec", "operator", "infix",
   "inline", "external", "suspend", "const", "vararg", "noinline", "crossinline", "expect",
   "actual"]

/-- Words that start a declaration. -/
def declarationWords : List String :=
  ["class", "interface", "enum", "object", "fun", "val", "var", "typealias"]

/-- The targets an annotation may name before a colon. -/
def useSiteTargets : List String :=
  ["field", "property", "get", "set", "receiver", "param", "setparam", "delegate", "file"]

/-- Labels with a meaning of their own: `this@`, `super@` and the jumps. -/
def keywordLabels : List String := ["this@", "super@", "return@", "break@", "continue@"]

/-- Whether a token is an identifier. -/
def isIdentifier (t : Token) : Bool := t.kind == .word && !hardKeywords.contains t.text

/-- Whether a token is a label naming a lambda or loop. -/
def isPlainLabel (t : Token) : Bool := t.kind == .label && !keywordLabels.contains t.text

/-- Whether the token `k` ahead is an identifier. -/
def identAt (k : Nat) : Read Bool := do return ((← peekAt k).map isIdentifier).getD false

/-- Takes the next token if it is an identifier, and stops before it otherwise. -/
def identifier : Read Token := do
  if ← identAt 0 then bump else fail

/-- Takes the next token if it is a word. Where a declaration is named no keyword can come, so a
keyword there is read as the name. -/
def declaredName : Read Token := do
  if (← peek).any (·.kind == .word) then bump else fail

/-- Whether a statement ends before token `t` where a statement may end: at a semicolon, or
where the gap before `t` holds a line break and `t` cannot continue the statement. On one line a
statement ends only before a word starting with `e` but not with `else`, or starting with
`import`. After a line break it goes on before a binary operator, a dot, a colon, an opening
bracket, a word starting with `else`, and `in` not followed by an ASCII letter (`in1` too); it
ends before anything else: `is`, `++`, `--`, a sign directly before a digit and a prefix `!`
included. Only the blanks after the last comment of the gap count, as a comment is a token of
its own. -/
def endsStatement (t : Token) : Bool :=
  if t.kind == .symbol && t.text == ";" then true
  else if !t.lineBreak then
    match t.text.toList with
    | 'e' :: 'l' :: 's' :: 'e' :: _ => false
    | 'e' :: _ => true
    | 'i' :: 'm' :: 'p' :: 'o' :: 'r' :: 't' :: _ => true
    | _ => false
  else
    match t.text.toList with
    | '+' :: '+' :: _ => true
    | '-' :: '-' :: _ => true
    | ['+'] | ['-'] => t.digitAfter
    | '!' :: '=' :: _ => false
    | 'e' :: 'l' :: 's' :: 'e' :: _ => false
    | 'i' :: 'n' :: c :: _ => c.isAlpha
    | ['i', 'n'] => false
    | c :: _ => !",.:*%><=\x7b[(?|&/+-".contains c
    | [] => true

/-- Whether a token can start an expression. -/
def startsExpression (t : Token) : Bool :=
  match t.kind with
  | .word => !hardKeywords.contains t.text || expressionKeywords.contains t.text
  | .label | .number _ | .character | .quote | .stringStart => true
  | .symbol => ["(", "\x7b", "[", "-", "+", "!", "++", "--", "::", "@"].contains t.text
  | _ => false

/-- Whether the next token ends a statement read with flag `nl`. -/
def stopsHere (nl : Bool) : Read Bool := do
  match ← peek with
  | none => return true
  | some t => return nl && endsStatement t

/-- The binary operator at the reader's position: the expression it builds, its precedence and
how many tokens it takes. -/
def binaryOperator (nl : Bool) : Read (Option (Kind × Nat × Nat)) := do
  match ← peek with
  | none => return none
  | some t =>
    if nl && endsStatement t then return none
    let next ← peekAt 1
    let adjacentWord (ws : List String) : Bool :=
      match next with
      | some n => n.kind == .word && ws.contains n.text && n.start == t.stop
      | none => false
    if t.kind == .symbol then
      match t.text with
      | "||" => return some (.disjunctionExpression, 3, 1)
      | "&&" => return some (.conjunctionExpression, 4, 1)
      | "==" | "!=" | "===" | "!==" => return some (.equalityExpression, 5, 1)
      | "<" | ">" | "<=" | ">=" => return some (.comparisonExpression, 6, 1)
      | "!" => return if adjacentWord ["in", "is"] then some (.checkExpression, 7, 2) else none
      | "!in" | "!is" => return some (.checkExpression, 7, 1)
      | "?:" => return some (.elvisExpression, 8, 1)
      | ".." | "..<" => return some (.rangeExpression, 10, 1)
      | "+" | "-" => return some (.additiveExpression, 11, 1)
      | "*" | "/" | "%" => return some (.multiplicativeExpression, 12, 1)
      | _ => return none
    else if t.kind == .word then
      match t.text with
      | "in" | "is" => return some (.checkExpression, 7, 1)
      | "as" =>
        let safe : Bool := match next with
          | some n => n.kind == .symbol && n.text == "?" && n.start == t.stop
          | none => false
        return some (.asExpression, 13, if safe then 2 else 1)
      | w => return if hardKeywords.contains w then none else some (.infixExpression, 9, 1)
    else return none

/-- The operators of an assignment. -/
def assignmentOperators : List String := ["=", "+=", "-=", "*=", "/=", "%="]

/-- The parts of an expression before its last suffix, flattened as the grammar's assignable
expressions list them: the primary expression and each suffix. -/
def assignableParts : Syntax → List Syntax
  | .node .navigationExpression _ _ [r, s] => assignableParts r ++ [s]
  | .node .indexingExpression _ _ [r, s] => assignableParts r ++ [s]
  | .node .callExpression _ _ [r, s] => assignableParts r ++ [s]
  | .node .postfixExpression _ _ [r] => assignableParts r
  | e => [e]

/-- The target of an assignment, if an expression can be assigned to: a name, or an expression
ending in a member or index suffix. -/
def assignable (e : Syntax) : Option Syntax :=
  match e with
  | .node .simpleIdentifier _ sp _ => some (.node .directlyAssignableExpression none sp [e])
  | .node .navigationExpression _ sp [r, s] =>
    some (.node .directlyAssignableExpression none sp (assignableParts r ++ [s]))
  | .node .indexingExpression _ sp [r, s] =>
    some (.node .directlyAssignableExpression none sp (assignableParts r ++ [s]))
  | _ => none

/-- The symbol of a numeric literal. -/
def NumberKind.kind : NumberKind → Kind
  | .integer => .integerLiteral
  | .hex => .hexLiteral
  | .bin => .binLiteral
  | .real => .realLiteral

/-- Question marks after a type make it nullable. -/
def nullableSuffix (t : Syntax) : Read Syntax := do
  if ← sym "?" then
    discard bump
    if ← sym "?" then discard bump
    finish .nullableType t.start [t]
  else return t

/-- One variance or reification word before a name. -/
def varianceModifier : Read (Option Syntax) := do
  match ← peek, ← peekAt 1 with
  | some t, some n =>
    if t.kind == .word && (t.text == "in" || t.text == "out") && n.kind == .word then
      discard bump
      return some (leaf .varianceModifier t)
    else if t.kind == .word && t.text == "reified" && n.kind == .word then
      discard bump
      return some (leaf .reificationModifier t)
    else return none
  | _, _ => return none

/-- The `in`, `out` and `reified` words before a type parameter or projection, as one node of
kind `kind` if there are any. -/
def varianceModifiers (kind : Kind) : Read (List Syntax) := do
  let start ← startByte
  match ← varianceModifier with
  | none => return []
  | some m =>
    let second ← varianceModifier
    return [← finish kind start (m :: second.toList)]

/-- Takes semicolons; whether there were any. -/
def skipSemicolons : Nat → Read Bool
  | 0 => return false
  | fuel + 1 => do
    if ← optional ";" then
      discard (skipSemicolons fuel)
      return true
    else return false

/-- Ends a member: semicolons, a line break, or the end of the text. Anything else on the same
line, a closing brace included, needs an assumed semicolon, which is noted. -/
def memberGap : Read Bool := do
  if ← skipSemicolons 64 then return false
  match ← peek with
  | none => return false
  | some t =>
    if (t.kind == .symbol && t.text == "\x7d" && t.lineBreak) || endsStatement t then
      return false
    else
      assume
      return true

/-- What a callable reference names after `::`: a name, or `class`. -/
def referenceTarget : Read (List Syntax) := do
  if ← word "class" then
    discard bump
    return []
  let n ← identifier
  return [leaf .simpleIdentifier n]

/-- Whether the next token is a semicolon written in the text, not one taken as missing by a
repair. -/
def writtenSemicolon : Read Bool := do
  match ← peek with
  | some t => return t.kind == .symbol && t.text == ";" && t.start < t.stop
  | none => return false

/-- Passes over tokens up to the closing brace of the body it stands in, over nested groups,
and leaves the brace. -/
def passToClosingBrace : Read Unit := do
  let rec go (depth : Nat) : Nat → Read Unit
    | 0 => pure ()
    | n + 1 => do
      match ← peek with
      | none => pure ()
      | some t =>
        if t.kind == .symbol && t.text == "\x7d" then
          if depth == 0 then pure () else do discard bump; go (depth - 1) n
        else if t.kind == .symbol && t.text == "\x7b" then do discard bump; go (depth + 1) n
        else do discard bump; go depth n
  go 0 ((← read).size)

/-- A character literal read piece by piece: its opening quote, its body and its closing quote.
The body is an escape, a unicode escape of `\u` and four digits, or one character: a piece of
a literal, or a token of one character right after the opening quote. A body taken as missing
is an escape with no width. -/
def characterPieces : Read Syntax := do
  let opener ← bump
  let t ← match ← peek with
    | some t => pure t
    | none => fail
  let escape : Option Span ←
    if t.kind == .characterPart then do
      discard bump
      if t.text == "\\u" then
        match ← peek with
        | some h =>
          if h.kind == .characterPart && h.text.length == 4 then do
            discard bump
            pure (some ⟨t.start, h.stop⟩)
          else fail
        | none => fail
      else if t.text.startsWith "\\" then pure (some ⟨t.start, t.stop⟩)
      else pure none
    else if t.start == t.stop then do
      discard bump
      pure (some ⟨t.start, t.stop⟩)
    else if t.start == opener.stop && t.text.length == 1 && t.kind != .quote &&
        t.kind != .invalid then do
      discard bump
      pure none
    else fail
  let closer ← match ← peek with
    | some c => if c.kind == .quote then bump else fail
    | none => fail
  let children := match escape with
    | some sp => [.node .characterEscapeSeq none sp []]
    | none => []
  return .node .characterLiteral none ⟨opener.start, closer.stop⟩ children

mutual

/-- An annotation: `@`, a use-site target, then a type with arguments or several in brackets. -/
def annotationNode : Nat → Read Syntax
  | 0 => fail
  | fuel + 1 => do
    let start ← startByte
    expect "@"
    let target ← do
      match ← peek, ← peekAt 1 with
      | some t, some c =>
        if t.kind == .word && useSiteTargets.contains t.text && c.kind == .symbol && c.text == ":"
        then
          discard bump; discard bump
          pure [Tree.node Kind.useSiteTarget none ⟨t.start, c.stop⟩ []]
        else pure []
      | _, _ => pure []
    if ← optional "[" then
      let items ← annotationBodies fuel []
      expect "]"
      finish .annotationNode start (target ++ items)
    else
      let a ← annotationBody fuel
      finish .annotationNode start (target ++ [a])
termination_by structural f => f

/-- The annotations inside brackets. -/
def annotationBodies : Nat → List Syntax → Read (List Syntax)
  | 0, _ => fail
  | fuel + 1, acc => do
    if (← sym "]") || (← atEnd) then return acc.reverse
    let a ← annotationBody fuel
    annotationBodies fuel (a :: acc)
termination_by structural f _ => f

/-- An annotation's type, with its arguments if it has any. -/
def annotationBody : Nat → Read Syntax
  | 0 => fail
  | fuel + 1 => do
    let start ← startByte
    let ty ← userType fuel
    if ← sym "(" then
      let args ← valueArguments fuel
      finish .constructorInvocation start [ty, args]
    else return ty
termination_by structural f => f

/-- The modifiers of a declaration: annotations and modifier words, as one node if there are
any. A modifier word counts only before another word or an annotation. -/
def modifiersOpt : Nat → Read (List Syntax)
  | 0 => fail
  | fuel + 1 => do
    let start ← startByte
    let items ← modifierItems fuel []
    if items.isEmpty then return [] else return [← finish .modifiers start items]
termination_by structural f => f

/-- The items of a modifier list. -/
def modifierItems : Nat → List Syntax → Read (List Syntax)
  | 0, _ => fail
  | fuel + 1, acc => do
    if ← sym "@" then
      let a ← annotationNode fuel
      modifierItems fuel (a :: acc)
    else
      match ← peek, ← peekAt 1 with
      | some t, some n =>
        if t.kind == .word && modifierWords.contains t.text &&
            (n.kind == .word || (n.kind == .symbol && n.text == "@")) then
          discard bump
          modifierItems fuel (leaf .keyword t :: acc)
        else return acc.reverse
      | _, _ => return acc.reverse
termination_by structural f _ => f

/-- A type with the modifiers before it. -/
def typed : Nat → Read (List Syntax)
  | 0 => fail
  | fuel + 1 => do
    let mods ← typeModifiersOpt fuel
    let start ← startByte
    if ← sym "(" then
      match ← attempt (functionType fuel start []) with
      | some f => return mods ++ [f]
      | none =>
        discard bump
        let inner ← typed fuel
        expect ")"
        let p ← finish .parenthesizedType start inner
        return mods ++ [← nullableSuffix p]
    else
      let u ← userType fuel
      if (← sym ".") && (← symAt 1 "(") then
        discard bump
        let f ← functionType fuel start u.children
        return mods ++ [f]
      else return mods ++ [← nullableSuffix u]
termination_by structural f => f

/-- The `suspend` keywords and annotations before a type, as one node if there are any. -/
def typeModifiersOpt : Nat → Read (List Syntax)
  | 0 => fail
  | fuel + 1 => do
    let start ← startByte
    let before ← position
    let items ← typeModifierItems fuel []
    if (← position) = before then return []
    else return [← finish .typeModifiers start items]
termination_by structural f => f

/-- The items of a type's modifiers. -/
def typeModifierItems : Nat → List Syntax → Read (List Syntax)
  | 0, _ => fail
  | fuel + 1, acc => do
    if ← sym "@" then
      let a ← annotationNode fuel
      typeModifierItems fuel (a :: acc)
    else if (← word "suspend") && ((← identAt 1) || (← symAt 1 "(")) then
      discard bump
      typeModifierItems fuel acc
    else return acc.reverse
termination_by structural f _ => f

/-- A function type from its parameter list: `(A, B) -> C`, after the receiver parts given. -/
def functionType : Nat → Nat → List Syntax → Read Syntax
  | 0, _, _ => fail
  | fuel + 1, start, receiver => do
    let params ← functionTypeParameters fuel
    expect "->"
    let result ← typed fuel
    finish .functionType start (receiver ++ [params] ++ result)
termination_by structural f _ _ => f

/-- The parameters of a function type: types, or names with types. -/
def functionTypeParameters : Nat → Read Syntax
  | 0 => fail
  | fuel + 1 => do
    let start ← startByte
    expect "("
    let items ← functionTypeParameterItems fuel []
    expect ")"
    finish .functionTypeParameters start items
termination_by structural f => f

/-- The items of a function type's parameter list. -/
def functionTypeParameterItems : Nat → List Syntax → Read (List Syntax)
  | 0, _ => fail
  | fuel + 1, acc => do
    if (← sym ")") || (← atEnd) then return acc.reverse
    let start ← startByte
    let item ←
      if (← identAt 0) && (← symAt 1 ":") then do
        let name ← bump
        discard bump
        let ty ← typed fuel
        pure [← finish .parameter start (leaf .simpleIdentifier name :: ty)]
      else typed fuel
    let acc := item.reverse ++ acc
    if ← optional "," then functionTypeParameterItems fuel acc else return acc.reverse
termination_by structural f _ => f

/-- A named type: names separated by dots, each with its type arguments. -/
def userType : Nat → Read Syntax
  | 0 => fail
  | fuel + 1 => do
    let start ← startByte
    let parts ← userTypeParts fuel false []
    finish .userType start parts
termination_by structural f => f

/-- The names of a named type and their type arguments. With `receiver` set, the reader stops
before a last `.name` not followed by a dot or type arguments: that name is declared on the
type. -/
def userTypeParts : Nat → Bool → List Syntax → Read (List Syntax)
  | 0, _, _ => fail
  | fuel + 1, receiver, acc => do
    let t ← identifier
    let mut acc := leaf .typeIdentifier t :: acc
    if ← sym "<" then
      match ← attempt (typeArguments fuel) with
      | some a => acc := a :: acc
      | none => pure ()
    if (← sym ".") && (← identAt 1) then
      if receiver && !((← symAt 2 ".") || (← symAt 2 "<") || (← symAt 2 "?.")) then
        return acc.reverse
      discard bump
      userTypeParts fuel receiver acc
    else return acc.reverse
termination_by structural f _ _ => f

/-- Type arguments: `<A, out B, *>`. -/
def typeArguments : Nat → Read Syntax
  | 0 => fail
  | fuel + 1 => do
    let start ← startByte
    expect "<"
    let items ← typeProjections fuel []
    expect ">"
    finish .typeArguments start items
termination_by structural f => f

/-- The projections of a type argument list. -/
def typeProjections : Nat → List Syntax → Read (List Syntax)
  | 0, _ => fail
  | fuel + 1, acc => do
    let start ← startByte
    let p ←
      if ← sym "*" then do
        discard bump
        finish .typeProjection start []
      else do
        let mods ← varianceModifiers .typeProjectionModifiers
        let ty ← typed fuel
        finish .typeProjection start (mods ++ ty)
    if ← optional "," then typeProjections fuel (p :: acc) else return (p :: acc).reverse
termination_by structural f _ => f

/-- Type parameters: `<T, reified U : Bound>`. -/
def typeParameters : Nat → Read Syntax
  | 0 => fail
  | fuel + 1 => do
    let start ← startByte
    expect "<"
    let items ← typeParameterItems fuel []
    expect ">"
    finish .typeParameters start items
termination_by structural f => f

/-- The parameters of a type parameter list. -/
def typeParameterItems : Nat → List Syntax → Read (List Syntax)
  | 0, _ => fail
  | fuel + 1, acc => do
    let start ← startByte
    let mods ← varianceModifiers .typeParameterModifiers
    let name ← identifier
    let bound ← if ← optional ":" then typed fuel else pure []
    let p ← finish .typeParameter start (mods ++ [leaf .typeIdentifier name] ++ bound)
    if ← optional "," then typeParameterItems fuel (p :: acc) else return (p :: acc).reverse
termination_by structural f _ => f

/-- Type constraints: `where T : A, U : B`. -/
def typeConstraints : Nat → Read Syntax
  | 0 => fail
  | fuel + 1 => do
    let start ← startByte
    expectWord "where"
    let items ← typeConstraintItems fuel []
    finish .typeConstraints start items
termination_by structural f => f

/-- The constraints of a `where` clause. -/
def typeConstraintItems : Nat → List Syntax → Read (List Syntax)
  | 0, _ => fail
  | fuel + 1, acc => do
    let start ← startByte
    let name ← identifier
    expect ":"
    let ty ← typed fuel
    let c ← finish .typeConstraint start (leaf .typeIdentifier name :: ty)
    if ← optional "," then typeConstraintItems fuel (c :: acc) else return (c :: acc).reverse
termination_by structural f _ => f

/-- Arguments in parentheses. -/
def valueArguments : Nat → Read Syntax
  | 0 => fail
  | fuel + 1 => do
    let start ← startByte
    expect "("
    let items ← valueArgumentItems fuel []
    expect ")"
    finish .valueArguments start items
termination_by structural f => f

/-- The arguments of an argument list: each optionally named and spread. -/
def valueArgumentItems : Nat → List Syntax → Read (List Syntax)
  | 0, _ => fail
  | fuel + 1, acc => do
    if (← sym ")") || (← atEnd) then return acc.reverse
    let start ← startByte
    let ann ← if ← sym "@" then pure [← annotationNode fuel] else pure []
    let name ←
      if (← identAt 0) && (← symAt 1 "=") then do
        let n ← bump
        discard bump
        pure [leaf .simpleIdentifier n]
      else pure []
    let spreadStart ← startByte
    let spread ← optional "*"
    let e ← expression fuel false
    let e ← if spread then finish .spreadExpression spreadStart [e] else pure e
    let a ← finish .valueArgument start (ann ++ name ++ [e])
    if ← optional "," then valueArgumentItems fuel (a :: acc) else return (a :: acc).reverse
termination_by structural f _ => f

/-- A block in braces: its statements, if it has any. -/
def block : Nat → Read (Option Syntax)
  | 0 => fail
  | fuel + 1 => do
    expect "\x7b"
    let s ← statementsOpt fuel
    expect "\x7d"
    return s
termination_by structural f => f

/-- The statements up to a closing brace, as one node if there are any. The node runs from
the first statement to the end of the last, a trailing semicolon included; tokens passed over
after it lie outside the node. -/
def statementsOpt : Nat → Read (Option Syntax)
  | 0 => fail
  | fuel + 1 => do
    discard (skipSemicolons fuel)
    let (items, stop) ← statementItems fuel [] 0
    match items with
    | [] => return none
    | first :: _ => return some (.node .statements none ⟨first.start, stop⟩ items)
termination_by structural f => f

/-- The statements of a block, with the byte where the last of them ends, a semicolon after it
included. Each statement ends with a semicolon, a line break or the closing brace; a statement
that cannot be read, or that another follows on its line, stops the reading there. -/
def statementItems : Nat → List Syntax → Nat → Read (List Syntax × Nat)
  | 0, _, _ => fail
  | fuel + 1, acc, stop => do
    if (← sym "\x7d") || (← atEnd) then return (acc.reverse, stop)
    let items ← statement fuel true
    let itemStop := items.foldl (fun m i => max m i.stop) stop
    if let some t ← peek then
      if !(endsStatement t || (t.kind == .symbol && t.text == "\x7d")) then fail
    let semicolons ← skipSemicolons fuel
    let stop ← if semicolons then stopByte else pure itemStop
    statementItems fuel (items.reverse ++ acc) stop
termination_by structural f _ _ => f

/-- A statement: a declaration, or labels and annotations before a loop, an assignment or an
expression. The labels and annotations are nodes of their own. -/
def statement : Nat → Bool → Read (List Syntax)
  | 0, _ => fail
  | fuel + 1, nl => do
    let first ← peek
    let declarationFirst : Bool := match first with
      | some t =>
        (t.kind == .symbol && t.text == "@") ||
          (t.kind == .word && (modifierWords.contains t.text || declarationWords.contains t.text))
      | none => false
    let d ← if declarationFirst then attempt (do
        let start ← startByte
        let mods ← modifiersOpt fuel
        declaration fuel start mods) else pure none
    match d with
    | some d => return [d]
    | none =>
      let prefixes ← statementPrefixes fuel []
      let loop := (← word "for") || (← word "while") || (← word "do")
      let s ←
        if (← word "for") then forStatement fuel
        else if (← word "while") then whileStatement fuel
        else if (← word "do") then doWhileStatement fuel
        else assignmentOrExpression fuel nl
      -- before an expression, labels and annotations are prefixes of the expression itself
      if loop || s.kind == .assignment then return prefixes ++ [s]
      else return [prefixes.foldr (fun p e => .node .prefixExpression none ⟨p.start, e.stop⟩ [p, e]) s]
termination_by structural f _ => f

/-- Labels and annotations before a statement. -/
def statementPrefixes : Nat → List Syntax → Read (List Syntax)
  | 0, _ => fail
  | fuel + 1, acc => do
    match ← peek with
    | some t =>
      if isPlainLabel t then
        discard bump
        statementPrefixes fuel (leaf .label t :: acc)
      else if t.kind == .symbol && t.text == "@" then
        let a ← annotationNode fuel
        statementPrefixes fuel (a :: acc)
      else return acc.reverse
    | none => return acc.reverse
termination_by structural f _ => f

/-- An assignment, or an expression read from the same start. -/
def assignmentOrExpression : Nat → Bool → Read Syntax
  | 0, _ => fail
  | fuel + 1, nl => do
    let start ← startByte
    let e ← unary fuel nl
    let op ← peek
    let isAssignment : Bool := match op with
      | some t => t.kind == .symbol && assignmentOperators.contains t.text
      | none => false
    match isAssignment, assignable e with
    | true, some target =>
      discard bump
      let value ← expression fuel nl
      finish .assignment start [target, value]
    | _, _ => binaryRest fuel nl 0 start e
termination_by structural f _ => f

/-- A declaration after its modifiers. -/
def declaration : Nat → Nat → List Syntax → Read Syntax
  | 0, _, _ => fail
  | fuel + 1, start, mods => do
    match ← peek with
    | some t =>
      if t.kind != .word then fail
      match t.text with
      | "class" | "interface" | "enum" => classDeclaration fuel start mods
      | "object" => objectDeclaration fuel start mods
      | "fun" => functionDeclaration fuel start mods
      | "val" | "var" => propertyDeclaration fuel start mods
      | "typealias" => typeAlias fuel start mods
      | _ => fail
    | none => fail
termination_by structural f _ _ => f

/-- A declaration in a class body: also a companion object, an initializer block or a
secondary constructor. -/
def member : Nat → Read Syntax
  | 0 => fail
  | fuel + 1 => do
    let start ← startByte
    if (← word "init") && (← symAt 1 "\x7b") then
      discard bump
      let b ← block fuel
      return ← finish .anonymousInitializer start b.toList
    let mods ← modifiersOpt fuel
    if ← word "companion" then companionObject fuel start mods
    else if ← word "constructor" then secondaryConstructor fuel start mods
    else declaration fuel start mods
termination_by structural f => f

/-- A class, interface or enum class. -/
def classDeclaration : Nat → Nat → List Syntax → Read Syntax
  | 0, _, _ => fail
  | fuel + 1, start, mods => do
    let isEnum ← word "enum"
    if isEnum then
      discard bump
      expectWord "class"
    else discard bump
    let name ← declaredName
    let mut children := mods ++ [leaf .typeIdentifier name]
    if !(← stopsHere true) && (← sym "<") then
      children := children ++ [← typeParameters fuel]
    if !(← stopsHere true) then
      if ← primaryConstructorAhead fuel then
        children := children ++ [← primaryConstructor fuel]
    if !(← stopsHere true) && (← sym ":") then
      discard bump
      children := children ++ (← delegationSpecifiers fuel [])
    if !(← stopsHere true) && (← word "where") then
      children := children ++ [← typeConstraints fuel]
    if !(← stopsHere true) && (← sym "\x7b") then
      children := children ++ [← if isEnum then enumClassBody fuel else classBody fuel]
    finish .classDeclaration start children
termination_by structural f _ _ => f

/-- An object declaration. -/
def objectDeclaration : Nat → Nat → List Syntax → Read Syntax
  | 0, _, _ => fail
  | fuel + 1, start, mods => do
    expectWord "object"
    let name ← declaredName
    let rest ← objectRest fuel
    finish .objectDeclaration start (mods ++ [leaf .typeIdentifier name] ++ rest)
termination_by structural f _ _ => f

/-- A companion object. -/
def companionObject : Nat → Nat → List Syntax → Read Syntax
  | 0, _, _ => fail
  | fuel + 1, start, mods => do
    expectWord "companion"
    expectWord "object"
    let name ←
      if (← identAt 0) && !(← stopsHere true) then pure [leaf .typeIdentifier (← bump)]
      else pure []
    let rest ← objectRest fuel
    finish .companionObject start (mods ++ name ++ rest)
termination_by structural f _ _ => f

/-- The supertypes and body of an object. -/
def objectRest : Nat → Read (List Syntax)
  | 0 => fail
  | fuel + 1 => do
    let mut children := []
    if !(← stopsHere true) && (← sym ":") then
      discard bump
      children := children ++ (← delegationSpecifiers fuel [])
    if !(← stopsHere true) && (← sym "\x7b") then
      children := children ++ [← classBody fuel]
    return children
termination_by structural f => f

/-- The supertypes after a colon. -/
def delegationSpecifiers : Nat → List Syntax → Read (List Syntax)
  | 0, _ => fail
  | fuel + 1, acc => do
    let start ← startByte
    let u ← userType fuel
    let inner ←
      if ← sym "(" then do
        let args ← valueArguments fuel
        finish .constructorInvocation start [u, args]
      else if ← word "by" then do
        discard bump
        let e ← expression fuel true
        finish .explicitDelegation start [u, e]
      else pure u
    let d ← finish .delegationSpecifier start [inner]
    if ← optional "," then delegationSpecifiers fuel (d :: acc) else return (d :: acc).reverse
termination_by structural f _ => f

/-- Whether a primary constructor follows: parentheses, or modifiers and `constructor`. -/
def primaryConstructorAhead : Nat → Read Bool
  | 0 => fail
  | fuel + 1 => do
    if (← sym "(") || (← word "constructor") then return true
    lookahead (do
      discard (modifiersOpt fuel)
      expectWord "constructor")
termination_by structural f => f

/-- A primary constructor. -/
def primaryConstructor : Nat → Read Syntax
  | 0 => fail
  | fuel + 1 => do
    let start ← startByte
    let mods ← modifiersOpt fuel
    if ← word "constructor" then discard bump
    expect "("
    let params ← classParameters fuel []
    expect ")"
    finish .primaryConstructor start (mods ++ params)
termination_by structural f => f

/-- The parameters of a primary constructor. -/
def classParameters : Nat → List Syntax → Read (List Syntax)
  | 0, _ => fail
  | fuel + 1, acc => do
    if (← sym ")") || (← atEnd) then return acc.reverse
    let start ← startByte
    let mods ← modifiersOpt fuel
    let kind ←
      if (← word "val") || (← word "var") then pure [leaf .bindingPatternKind (← bump)]
      else pure []
    let name ← identifier
    expect ":"
    let ty ← typed fuel
    let value ← if ← optional "=" then pure [← expression fuel false] else pure []
    let p ← finish .classParameter start (mods ++ kind ++ [leaf .simpleIdentifier name] ++ ty ++ value)
    if ← optional "," then classParameters fuel (p :: acc) else return (p :: acc).reverse
termination_by structural f _ => f

/-- A class body. A body with two declarations that share a line with the next one loses its
members. A semicolon cannot open a body: one right after the opening brace makes the rest of
the body an error, passed over up to its closing brace. -/
def classBody : Nat → Read Syntax
  | 0 => fail
  | fuel + 1 => do
    let start ← startByte
    expect "\x7b"
    if ← writtenSemicolon then
      passToClosingBrace
      expect "\x7d"
      return ← finish .classBody start []
    let (members, gaps) ← classMembers fuel [] 0
    expect "\x7d"
    finish .classBody start (if gaps ≥ 2 then [] else members)
termination_by structural f => f

/-- The members of a class body and how many semicolons between them were assumed. A member
that cannot be read stops the body: the statement around it is repaired as a whole. -/
def classMembers : Nat → List Syntax → Nat → Read (List Syntax × Nat)
  | 0, _, _ => fail
  | fuel + 1, acc, gaps => do
    if (← sym "\x7d") || (← atEnd) then return (acc.reverse, gaps)
    if ← skipSemicolons fuel then return ← classMembers fuel acc gaps
    let m ← member fuel
    let assumed ← memberGap
    classMembers fuel (m :: acc) (if assumed then gaps + 1 else gaps)
termination_by structural f _ _ => f

/-- The body of an enum class: entries, then a semicolon and members. The semicolon follows at
least one entry: as in a class body, one right after the opening brace makes the rest of the
body an error. -/
def enumClassBody : Nat → Read Syntax
  | 0 => fail
  | fuel + 1 => do
    let start ← startByte
    expect "\x7b"
    let entries ← enumEntries fuel []
    let members ←
      if entries.isEmpty && (← writtenSemicolon) then do
        passToClosingBrace
        pure []
      else if ← optional ";" then do
        let (members, gaps) ← classMembers fuel [] 0
        pure (if gaps ≥ 2 then [] else members)
      else pure []
    expect "\x7d"
    finish .enumClassBody start (entries ++ members)
termination_by structural f => f

/-- The entries of an enum class, separated by commas. -/
def enumEntries : Nat → List Syntax → Read (List Syntax)
  | 0, _ => fail
  | fuel + 1, acc => do
    if !((← identAt 0) || (← sym "@")) then return acc.reverse
    let start ← startByte
    let mods ← modifiersOpt fuel
    let name ← identifier
    let args ← if ← sym "(" then pure [← valueArguments fuel] else pure []
    let body ← if ← sym "\x7b" then pure [← classBody fuel] else pure []
    let e ← finish .enumEntry start (mods ++ [leaf .simpleIdentifier name] ++ args ++ body)
    if ← optional "," then enumEntries fuel (e :: acc) else return (e :: acc).reverse
termination_by structural f _ => f

/-- The receiver type of an extension and the name declared on it; no receiver when the name
stands alone. A name that stands alone may be any word (`declaredName`). -/
def receiverAndName : Nat → Read (List Syntax × Token)
  | 0 => fail
  | fuel + 1 => do
    let start ← startByte
    let alone := !((← symAt 1 ".") || (← symAt 1 "<") || (← symAt 1 "?."))
    if ((← peek).any (·.kind == .word)) && alone then
      return ([], ← declaredName)
    let receiver ←
      if ← sym "(" then do
        let ty ← typed fuel
        expect "."
        pure ty
      else do
        let parts ← userTypeParts fuel true []
        let u ← finish .userType start parts
        match ← peek with
        | some q =>
          if q.kind == .symbol && q.text == "?." then
            discard bump
            pure [Tree.node Kind.nullableType none ⟨start, q.start + 1⟩ [u]]
          else if q.kind == .symbol && q.text == "?" then
            discard bump
            let n ← finish .nullableType start [u]
            expect "."
            pure [n]
          else
            expect "."
            pure [u]
        | none => fail
    let name ← identifier
    return (receiver, name)
termination_by structural f => f

/-- A function declaration. The `:` before the result type is kept: the analysis reads the
result type after it. -/
def functionDeclaration : Nat → Nat → List Syntax → Read Syntax
  | 0, _, _ => fail
  | fuel + 1, start, mods => do
    expectWord "fun"
    let tps ← if ← sym "<" then pure [← typeParameters fuel] else pure []
    let (receiver, name) ← receiverAndName fuel
    let params ← functionValueParameters fuel
    let mut children := mods ++ tps ++ receiver ++ [leaf .simpleIdentifier name, params]
    if !(← stopsHere true) && (← sym ":") then
      let colon ← bump
      children := children ++ [leaf .keyword colon] ++ (← typed fuel)
    if !(← stopsHere true) && (← word "where") then
      children := children ++ [← typeConstraints fuel]
    if !(← stopsHere true) && ((← sym "\x7b") || (← sym "=")) then
      children := children ++ [← functionBody fuel true]
    finish .functionDeclaration start children
termination_by structural f _ _ => f

/-- The parameters of a function. Each parameter has modifiers, a name and a type, and a
default value after `=`, which is kept. A brace where the list should close is read as if the
closing parenthesis were there. -/
def functionValueParameters : Nat → Read Syntax
  | 0 => fail
  | fuel + 1 => do
    let start ← startByte
    expect "("
    let items ← functionParameters fuel []
    if !(← optional ")") then
      if !(← sym "\x7b") then fail
    finish .functionValueParameters start items
termination_by structural f => f

/-- The items of a parameter list. -/
def functionParameters : Nat → List Syntax → Read (List Syntax)
  | 0, _ => fail
  | fuel + 1, acc => do
    if (← sym ")") || (← sym "\x7b") || (← atEnd) then return acc.reverse
    let mods ← parameterModifiersOpt fuel
    let start ← startByte
    let name ← identifier
    expect ":"
    let ty ← typed fuel
    let p ← finish .parameter start (leaf .simpleIdentifier name :: ty)
    let value ←
      if ← sym "=" then do
        let eq ← bump
        pure [leaf .keyword eq, ← expression fuel false]
      else pure []
    let acc := value.reverse ++ [p] ++ mods.reverse ++ acc
    if ← optional "," then functionParameters fuel acc else return acc.reverse
termination_by structural f _ => f

/-- The annotations and `vararg`, `noinline`, `crossinline` before a parameter, as one node if
there are any. -/
def parameterModifiersOpt : Nat → Read (List Syntax)
  | 0 => fail
  | fuel + 1 => do
    let start ← startByte
    let items ← parameterModifierItems fuel []
    if items.isEmpty then return [] else return [← finish .parameterModifiers start items]
termination_by structural f => f

/-- The items of a parameter's modifiers. -/
def parameterModifierItems : Nat → List Syntax → Read (List Syntax)
  | 0, _ => fail
  | fuel + 1, acc => do
    if ← sym "@" then
      let a ← annotationNode fuel
      parameterModifierItems fuel (a :: acc)
    else
      match ← peek with
      | some t =>
        if t.kind == .word && ["vararg", "noinline", "crossinline"].contains t.text &&
            (← identAt 1) then
          discard bump
          parameterModifierItems fuel (leaf .parameterModifier t :: acc)
        else return acc.reverse
      | none => return acc.reverse
termination_by structural f _ => f

/-- A function body: a block, or `=` and an expression, whose `=` is kept. -/
def functionBody : Nat → Bool → Read Syntax
  | 0, _ => fail
  | fuel + 1, nl => do
    let start ← startByte
    if ← sym "=" then
      let eq ← bump
      let e ← expression fuel nl
      finish .functionBody start [leaf .keyword eq, e]
    else
      let b ← block fuel
      finish .functionBody start b.toList
termination_by structural f _ => f

/-- A property declaration: `val` or `var`, the variable, an initializer or delegate, then a
getter or a setter, which may stand on a later line and after a semicolon, and possibly the
other one after it. -/
def propertyDeclaration : Nat → Nat → List Syntax → Read Syntax
  | 0, _, _ => fail
  | fuel + 1, start, mods => do
    let kind ← bump
    let tps ← if ← sym "<" then pure [← typeParameters fuel] else pure []
    let receiver ←
      if (← identAt 0) && ((← symAt 1 ".") || (← symAt 1 "<") || (← symAt 1 "?.")) then do
        let (r, name) ← receiverAndName fuel
        modify fun s => { s with pos := s.pos - 1 }
        if !isIdentifier name then fail
        pure r
      else pure []
    let decl ←
      if ← sym "(" then multiVariableDeclaration fuel
      else variableDeclaration fuel (receiver.isEmpty && tps.isEmpty)
    let mut children := mods ++ [leaf .bindingPatternKind kind] ++ tps ++ receiver ++ [decl]
    if !(← stopsHere true) && (← word "where") then
      children := children ++ [← typeConstraints fuel]
    if ← sym "=" then
      discard bump
      children := children ++ [← expression fuel true]
    else if !(← stopsHere true) && (← word "by") then
      let dstart ← startByte
      discard bump
      let e ← expression fuel true
      children := children ++ [← finish .propertyDelegate dstart [e]]
    let accessors := ["get", "set"]
    if ← sym ";" then
      if ← lookahead (do discard bump; if !(← accessorAheadOf fuel accessors) then fail) then
        discard bump
    if ← accessorAheadOf fuel accessors then
      let first ← accessor fuel
      children := children ++ [first]
      let other := if first.kind == .getter then "set" else "get"
      if ← lookahead (do discard (optional ";"); if !(← accessorAheadOf fuel [other]) then fail)
      then
        discard (optional ";")
        children := children ++ [← accessor fuel]
    finish .propertyDeclaration start children
termination_by structural f _ _ => f

/-- Whether an accessor named by one of `names` follows: modifiers, then `get` or `set` before
a parenthesis, a line break, a semicolon, a closing brace or the end. -/
def accessorAheadOf : Nat → List String → Read Bool
  | 0, _ => fail
  | fuel + 1, names =>
    lookahead (do
      discard (modifiersOpt fuel)
      if !(← names.anyM word) then fail
      match ← peekAt 1 with
      | none => pure ()
      | some n =>
        if (n.kind == .symbol && (n.text == "(" || n.text == ";" || n.text == "\x7d")) ||
            n.lineBreak then pure ()
        else fail)
termination_by structural f => f

/-- A getter or setter. -/
def accessor : Nat → Read Syntax
  | 0 => fail
  | fuel + 1 => do
    let start ← startByte
    let mods ← modifiersOpt fuel
    let isGetter ← word "get"
    discard bump
    let mut children := mods
    if ← optional "(" then
      if !isGetter && !(← sym ")") then
        let pstart ← startByte
        let pmods ← parameterModifiersOpt fuel
        let name ← identifier
        let ty ← if ← optional ":" then typed fuel else pure []
        children := children ++
          [← finish .parameterWithOptionalType pstart (pmods ++ [leaf .simpleIdentifier name] ++ ty)]
      expect ")"
      if !(← stopsHere true) && (← sym ":") then
        discard bump
        children := children ++ (← typed fuel)
      if !(← stopsHere true) && ((← sym "\x7b") || (← sym "=")) then
        children := children ++ [← functionBody fuel true]
    finish (if isGetter then .getter else .setter) start children
termination_by structural f => f

/-- A variable: a name and an optional type. Right after `val` or `var` no keyword can come,
so there (`afterKind`) a keyword is read as the name. -/
def variableDeclaration : Nat → Bool → Read Syntax
  | 0, _ => fail
  | fuel + 1, afterKind => do
    let start ← startByte
    let anns ← annotationsOpt fuel []
    let name ← if afterKind && anns.isEmpty then declaredName else identifier
    let ty ← if ← optional ":" then typed fuel else pure []
    finish .variableDeclaration start (anns ++ leaf .simpleIdentifier name :: ty)
termination_by structural f _ => f

/-- Annotations, each a node. -/
def annotationsOpt : Nat → List Syntax → Read (List Syntax)
  | 0, _ => fail
  | fuel + 1, acc => do
    if ← sym "@" then
      let a ← annotationNode fuel
      annotationsOpt fuel (a :: acc)
    else return acc.reverse
termination_by structural f _ => f

/-- Variables destructured in parentheses. -/
def multiVariableDeclaration : Nat → Read Syntax
  | 0 => fail
  | fuel + 1 => do
    let start ← startByte
    expect "("
    let items ← variableDeclarations fuel []
    expect ")"
    finish .multiVariableDeclaration start items
termination_by structural f => f

/-- Variables separated by commas. -/
def variableDeclarations : Nat → List Syntax → Read (List Syntax)
  | 0, _ => fail
  | fuel + 1, acc => do
    let v ← variableDeclaration fuel false
    if ← optional "," then variableDeclarations fuel (v :: acc) else return (v :: acc).reverse
termination_by structural f _ => f

/-- A secondary constructor, with the call to another constructor after a colon. -/
def secondaryConstructor : Nat → Nat → List Syntax → Read Syntax
  | 0, _, _ => fail
  | fuel + 1, start, mods => do
    expectWord "constructor"
    let params ← functionValueParameters fuel
    let mut children := mods ++ [params]
    if ← optional ":" then
      let cstart ← startByte
      if !((← word "this") || (← word "super")) then fail
      discard bump
      let args ← valueArguments fuel
      children := children ++ [← finish .constructorDelegationCall cstart [args]]
    if !(← stopsHere true) && (← sym "\x7b") then
      children := children ++ (← block fuel).toList
    finish .secondaryConstructor start children
termination_by structural f _ _ => f

/-- A type alias. -/
def typeAlias : Nat → Nat → List Syntax → Read Syntax
  | 0, _, _ => fail
  | fuel + 1, start, mods => do
    expectWord "typealias"
    let name ← identifier
    let tps ← if ← sym "<" then pure [← typeParameters fuel] else pure []
    expect "="
    let ty ← typed fuel
    finish .typeAlias start (mods ++ [leaf .typeIdentifier name] ++ tps ++ ty)
termination_by structural f _ _ => f

/-- A `for` loop; its body may be left out. -/
def forStatement : Nat → Read Syntax
  | 0 => fail
  | fuel + 1 => do
    let start ← startByte
    expectWord "for"
    expect "("
    let anns ← annotationsOpt fuel []
    let v ← if ← sym "(" then multiVariableDeclaration fuel else variableDeclaration fuel false
    expectWord "in"
    let iterable ← expression fuel false
    expect ")"
    let body ←
      if (← stopsHere true) || (← sym "\x7d") then pure []
      else pure [← controlStructureBody fuel true]
    finish .forStatement start (anns ++ [v, iterable] ++ body)
termination_by structural f => f

/-- A `while` loop. -/
def whileStatement : Nat → Read Syntax
  | 0 => fail
  | fuel + 1 => do
    let start ← startByte
    expectWord "while"
    expect "("
    let cond ← expression fuel false
    expect ")"
    if ← optional ";" then return ← finish .whileStatement start [cond]
    let body ← controlStructureBody fuel true
    finish .whileStatement start [cond, body]
termination_by structural f => f

/-- A `do`-`while` loop. -/
def doWhileStatement : Nat → Read Syntax
  | 0 => fail
  | fuel + 1 => do
    let start ← startByte
    expectWord "do"
    let body ← if ← word "while" then pure [] else pure [← controlStructureBody fuel true]
    expectWord "while"
    expect "("
    let cond ← expression fuel false
    expect ")"
    finish .doWhileStatement start (body ++ [cond])
termination_by structural f => f

/-- The body of a loop, branch or `when` entry: a block or one statement. -/
def controlStructureBody : Nat → Bool → Read Syntax
  | 0, _ => fail
  | fuel + 1, nl => do
    let start ← startByte
    if ← sym "\x7b" then
      let b ← block fuel
      finish .controlStructureBody start b.toList
    else
      let s ← statement fuel nl
      finish .controlStructureBody start s
termination_by structural f _ => f

/-- An expression. -/
def expression : Nat → Bool → Read Syntax
  | 0, _ => fail
  | fuel + 1, nl => binary fuel nl 0
termination_by structural f _ => f

/-- An expression whose operators bind at least as tightly as `minPrec`. -/
def binary : Nat → Bool → Nat → Read Syntax
  | 0, _, _ => fail
  | fuel + 1, nl, minPrec => do
    let start ← startByte
    let left ← unary fuel nl
    binaryRest fuel nl minPrec start left
termination_by structural f _ _ => f

/-- The binary operators after a left operand, grouping to the left. The right operand of `as`
and `is` is a type; the postfix suffixes that follow it belong to the whole expression, so
`x is T()` calls `x is T`. -/
def binaryRest : Nat → Bool → Nat → Nat → Syntax → Read Syntax
  | 0, _, _, _, _ => fail
  | fuel + 1, nl, minPrec, start, left => do
    match ← binaryOperator nl with
    | none => return left
    | some (kind, prec, n) =>
      if prec < minPrec then return left
      let op ← bump
      let second ← if n = 2 then some <$> bump else pure none
      let typeOperand :=
        kind == .asExpression || (kind == .checkExpression &&
          (op.text == "is" || op.text == "!is" || (second.map (·.text == "is")).getD false))
      let right ← if typeOperand then typed fuel else pure [← binary fuel nl (prec + 1)]
      let opNode := if kind == .infixExpression then [leaf .simpleIdentifier op] else []
      let node ← finish kind start (left :: opNode ++ right)
      -- a type cannot go on with a call, an index or a lambda, so these apply to the whole
      let node ← if typeOperand then suffixes fuel nl start node else pure node
      binaryRest fuel nl minPrec start node
termination_by structural f _ _ _ _ => f

/-- A prefix operator, annotation or label before an operand, or a postfix expression. -/
def unary : Nat → Bool → Read Syntax
  | 0, _ => fail
  | fuel + 1, nl => do
    let start ← startByte
    match ← peek with
    | none => fail
    | some t =>
      if t.kind == .symbol && ["-", "+", "!", "++", "--"].contains t.text then
        discard bump
        let operand ← unary fuel nl
        finish .prefixExpression start [operand]
      else if t.kind == .symbol && t.text == "@" then
        let a ← annotationNode fuel
        let operand ← unary fuel nl
        finish .prefixExpression start [a, operand]
      else if isPlainLabel t then
        discard bump
        let operand ← unary fuel nl
        finish .prefixExpression start [leaf .label t, operand]
      else
        let base ← primary fuel nl
        suffixes fuel nl start base
termination_by structural f _ => f

/-- The suffixes after an expression: calls with arguments or a trailing lambda, member
access, indexing and postfix operators. -/
def suffixes : Nat → Bool → Nat → Syntax → Read Syntax
  | 0, _, _, _ => fail
  | fuel + 1, nl, start, e => do
    match ← peek with
    | none => return e
    | some t =>
      if nl && endsStatement t then return e
      let sstart := t.start
      if t.kind == .symbol && t.text == "(" then
        let args ← valueArguments fuel
        let cs ← finish .callSuffix sstart [args]
        suffixes fuel nl start (← finish .callExpression start [e, cs])
      else if t.kind == .symbol && t.text == "\x7b" then
        let lam ← lambdaLiteral fuel
        let al ← finish .annotatedLambda sstart [lam]
        let cs ← finish .callSuffix sstart [al]
        suffixes fuel nl start (← finish .callExpression start [e, cs])
      else if isPlainLabel t && (← symAt 1 "\x7b") then
        discard bump
        let lam ← lambdaLiteral fuel
        let al ← finish .annotatedLambda sstart [leaf .label t, lam]
        let cs ← finish .callSuffix sstart [al]
        suffixes fuel nl start (← finish .callExpression start [e, cs])
      else if t.kind == .symbol && t.text == "<" then
        match ← attempt (typeArgumentCall fuel) with
        | some parts =>
          let cs ← finish .callSuffix sstart parts
          suffixes fuel nl start (← finish .callExpression start [e, cs])
        | none => return e
      else if t.kind == .symbol && (t.text == "." || t.text == "?." || t.text == "::") then
        discard bump
        let target ←
          if ← sym "(" then pure [← parenthesized fuel]
          else if ← word "class" then do discard bump; pure []
          else do
            let n ← identifier
            pure [leaf .simpleIdentifier n]
        let ns ← finish .navigationSuffix sstart target
        suffixes fuel nl start (← finish .navigationExpression start [e, ns])
      else if t.kind == .symbol && t.text == "[" then
        discard bump
        let items ← expressionList fuel "]" []
        expect "]"
        let is ← finish .indexingSuffix sstart items
        suffixes fuel nl start (← finish .indexingExpression start [e, is])
      else if t.kind == .symbol && ["++", "--", "!!"].contains t.text then
        discard bump
        suffixes fuel nl start (← finish .postfixExpression start [e])
      else return e
termination_by structural f _ _ _ => f

/-- Type arguments followed by arguments or a lambda: the suffix of a generic call. -/
def typeArgumentCall : Nat → Read (List Syntax)
  | 0 => fail
  | fuel + 1 => do
    let ta ← typeArguments fuel
    if ← sym "(" then return [ta, ← valueArguments fuel]
    else if ← sym "\x7b" then
      let lstart ← startByte
      let lam ← lambdaLiteral fuel
      return [ta, ← finish .annotatedLambda lstart [lam]]
    else fail
termination_by structural f => f

/-- Expressions separated by commas, up to the symbol `close`. -/
def expressionList : Nat → String → List Syntax → Read (List Syntax)
  | 0, _, _ => fail
  | fuel + 1, close, acc => do
    if (← sym close) || (← atEnd) then return acc.reverse
    let e ← expression fuel false
    if ← optional "," then expressionList fuel close (e :: acc) else return (e :: acc).reverse
termination_by structural f _ _ => f

/-- An expression in parentheses. -/
def parenthesized : Nat → Read Syntax
  | 0 => fail
  | fuel + 1 => do
    let start ← startByte
    expect "("
    let e ← expression fuel false
    expect ")"
    finish .parenthesizedExpression start [e]
termination_by structural f => f

/-- A primary expression. `null` is kept as an unnamed token. -/
def primary : Nat → Bool → Read Syntax
  | 0, _ => fail
  | fuel + 1, nl => do
    let start ← startByte
    match ← peek with
    | none => fail
    | some t =>
      match t.kind with
      | .symbol =>
        match t.text with
        | "(" => parenthesized fuel
        | "\x7b" => lambdaLiteral fuel
        | "[" =>
          discard bump
          let items ← expressionList fuel "]" []
          expect "]"
          finish .collectionLiteral start items
        | "::" =>
          discard bump
          let target ← referenceTarget
          finish .callableReference start target
        | _ => fail
      | .word =>
        match t.text with
        | "this" => discard bump; finish .thisExpression start []
        | "super" =>
          discard bump
          let ty ←
            if ← sym "<" then do
              discard bump
              let ty ← typed fuel
              expect ">"
              pure ty
            else pure []
          finish .superExpression start ty
        | "true" | "false" => discard bump; return leaf .booleanLiteral t
        | "null" => discard bump; return leaf .keyword t
        | "if" => ifExpression fuel nl
        | "when" => whenExpression fuel
        | "try" => tryExpression fuel nl
        | "return" | "throw" | "break" | "continue" => jumpExpression fuel nl
        | "fun" => anonymousFunction fuel nl
        | "object" => objectLiteral fuel
        | w =>
          if hardKeywords.contains w then fail
          discard bump
          if ← sym "::" then
            discard bump
            let target ← referenceTarget
            finish .callableReference start (leaf .typeIdentifier t :: target)
          else return leaf .simpleIdentifier t
      | .label =>
        if t.text == "this@" || t.text == "super@" then
          discard bump
          let n ← identifier
          finish (if t.text == "this@" then .thisExpression else .superExpression) start
            [leaf .typeIdentifier n]
        else if keywordLabels.contains t.text then jumpExpression fuel nl
        else fail
      | .number k =>
        discard bump
        let base := leaf k.kind t
        match ← peek with
        | some s =>
          if s.kind == .numberSuffix then
            discard bump
            let unsigned := s.text.any fun c => c = 'u' || c = 'U'
            finish (if unsigned then .unsignedLiteral else .longLiteral) start [base]
          else return base
        | none => return base
      | .character =>
        discard bump
        -- the line breaks after the opening quote are passed over; a missing body is supplied
        -- as an escape with no width right after the quote
        let breaks := runLength isLineBreak (t.text.toList.drop 1)
        let body := t.text.toList.drop (1 + breaks)
        let escape (sp : Span) : Syntax :=
          .node .characterLiteral none ⟨t.start, t.stop⟩ [.node .characterEscapeSeq none sp []]
        match body, characterEscapeLength body with
        | '\'' :: _, _ => return escape ⟨t.start + 1, t.start + 1⟩
        | _, some k => return escape ⟨t.start + 1 + breaks, t.start + 1 + breaks + k⟩
        | _, none => return leaf .characterLiteral t
      | .quote => characterPieces
      | .stringStart => stringLiteral fuel
      | _ => fail
termination_by structural f _ => f

/-- A string literal: its text runs and templates. -/
def stringLiteral : Nat → Read Syntax
  | 0 => fail
  | fuel + 1 => do
    let start ← startByte
    discard bump
    let parts ← stringParts fuel []
    finish .stringLiteral start parts
termination_by structural f => f

/-- The parts of a string literal up to its closing quote. A template expression is wrapped in
a node with the expression's range. -/
def stringParts : Nat → List Syntax → Read (List Syntax)
  | 0, _ => fail
  | fuel + 1, acc => do
    let t ← bump
    match t.kind with
    | .stringEnd => return acc.reverse
    | .stringContent => stringParts fuel (leaf .stringContent t :: acc)
    | .templateName =>
      stringParts fuel (Tree.node Kind.interpolatedIdentifier none ⟨t.start + 1, t.stop⟩ [] :: acc)
    | .templateOpen =>
      let e ← expression fuel false
      let close ← bump
      if close.kind != .templateClose then fail
      stringParts fuel (Tree.node Kind.interpolatedExpression none e.span [e] :: acc)
    | _ => fail
termination_by structural f _ => f

/-- A jump: `throw` with an operand, `return` with an optional one, `break` and `continue`;
each jump but `throw` may name a label. -/
def jumpExpression : Nat → Bool → Read Syntax
  | 0, _ => fail
  | fuel + 1, nl => do
    let start ← startByte
    let t ← bump
    let label ←
      if t.kind == .label then do
        let n ← identifier
        pure [leaf .label n]
      else pure []
    if t.text == "throw" then
      let e ← expression fuel nl
      return ← finish .jumpExpression start [e]
    if t.text == "return" || t.text == "return@" then
      let operand ←
        match ← peek with
        | some n =>
          if !(nl && endsStatement n) && startsExpression n then pure [← expression fuel nl]
          else pure []
        | none => pure []
      return ← finish .jumpExpression start (label ++ operand)
    finish .jumpExpression start label
termination_by structural f _ => f

/-- An `if` expression with optional `else`. -/
def ifExpression : Nat → Bool → Read Syntax
  | 0, _ => fail
  | fuel + 1, nl => do
    let start ← startByte
    expectWord "if"
    expect "("
    let cond ← expression fuel false
    expect ")"
    if ← optional ";" then return ← finish .ifExpression start [cond]
    let body ← if ← word "else" then pure [] else pure [← controlStructureBody fuel nl]
    let alternative ←
      if ← word "else" then do
        discard bump
        if ← optional ";" then pure [] else pure [← controlStructureBody fuel nl]
      else pure []
    finish .ifExpression start (cond :: body ++ alternative)
termination_by structural f _ => f

/-- A `when` expression: an optional subject and entries in braces. -/
def whenExpression : Nat → Read Syntax
  | 0 => fail
  | fuel + 1 => do
    let start ← startByte
    expectWord "when"
    let subject ←
      if ← sym "(" then do
        let sstart ← startByte
        discard bump
        let parts ←
          if ← word "val" then do
            discard bump
            let v ← variableDeclaration fuel true
            expect "="
            pure [v, ← expression fuel false]
          else pure [← expression fuel false]
        expect ")"
        pure [← finish .whenSubject sstart parts]
      else pure []
    expect "\x7b"
    let entries ← whenEntries fuel []
    expect "\x7d"
    finish .whenExpression start (subject ++ entries)
termination_by structural f => f

/-- The entries of a `when` expression. -/
def whenEntries : Nat → List Syntax → Read (List Syntax)
  | 0, _ => fail
  | fuel + 1, acc => do
    if (← sym "\x7d") || (← atEnd) then return acc.reverse
    let start ← startByte
    -- an entry with no condition has a missing name for it, of no width, where the last token
    -- ended, and starts there
    let missingAt ← stopByte
    let (start, conditions) ←
      if ← word "else" then do discard bump; pure (start, [])
      else if ← sym "->" then
        pure (missingAt, [.node .whenCondition none ⟨missingAt, missingAt⟩
          [.node .simpleIdentifier none ⟨missingAt, missingAt⟩ []]])
      else do pure (start, ← whenConditions fuel [])
    expect "->"
    let body ← controlStructureBody fuel true
    discard (optional ";")
    let e ← finish .whenEntry start (conditions ++ [body])
    whenEntries fuel (e :: acc)
termination_by structural f _ => f

/-- The conditions of a `when` entry, separated by commas: an expression, a range test or a
type test. -/
def whenConditions : Nat → List Syntax → Read (List Syntax)
  | 0, _ => fail
  | fuel + 1, acc => do
    if ← sym "->" then return acc.reverse
    let start ← startByte
    let negated := (← sym "!") && ((← wordAt 1 "in") || (← wordAt 1 "is"))
    if negated then discard bump
    let c ←
      if ← word "in" then do
        discard bump
        let e ← expression fuel false
        finish .whenCondition start [← finish .rangeTest start [e]]
      else if ← word "is" then do
        discard bump
        let ty ← typed fuel
        finish .whenCondition start [← finish .typeTest start ty]
      else do
        let e ← expression fuel false
        finish .whenCondition start [e]
    if ← optional "," then whenConditions fuel (c :: acc) else return (c :: acc).reverse
termination_by structural f _ => f

/-- A `try` expression with its `catch` blocks and `finally` block. A line break before a second
`catch` or a `finally` after one ends the expression. -/
def tryExpression : Nat → Bool → Read Syntax
  | 0, _ => fail
  | fuel + 1, nl => do
    let start ← startByte
    expectWord "try"
    let body ← block fuel
    let catches ← catchBlocks fuel nl []
    let fin ←
      if (← word "finally") && (catches.isEmpty || !(← stopsHere nl)) then do
        let fstart ← startByte
        discard bump
        let b ← block fuel
        pure [← finish .finallyBlock fstart b.toList]
      else pure []
    if catches.isEmpty && fin.isEmpty then fail
    finish .tryExpression start (body.toList ++ catches ++ fin)
termination_by structural f _ => f

/-- The `catch` blocks of a `try` expression. -/
def catchBlocks : Nat → Bool → List Syntax → Read (List Syntax)
  | 0, _, _ => fail
  | fuel + 1, nl, acc => do
    if !(← word "catch") || (!acc.isEmpty && (← stopsHere nl)) then return acc.reverse
    let start ← startByte
    discard bump
    expect "("
    let anns ← annotationsOpt fuel []
    let name ← identifier
    expect ":"
    let ty ← typed fuel
    discard (optional ",")
    expect ")"
    let b ← block fuel
    let c ← finish .catchBlock start (anns ++ [leaf .simpleIdentifier name] ++ ty ++ b.toList)
    catchBlocks fuel nl (c :: acc)
termination_by structural f _ _ => f

/-- A lambda literal: optional parameters before an arrow, then statements. -/
def lambdaLiteral : Nat → Read Syntax
  | 0 => fail
  | fuel + 1 => do
    let start ← startByte
    expect "\x7b"
    let params ←
      if ← optional "->" then pure []
      else
        match ← attempt (do
            let p ← lambdaParameters fuel
            expect "->"
            pure p) with
        | some p => pure [p]
        | none => pure []
    let s ← statementsOpt fuel
    expect "\x7d"
    finish .lambdaLiteral start (params ++ s.toList)
termination_by structural f => f

/-- The parameters of a lambda: variables, or variables destructured in parentheses. -/
def lambdaParameters : Nat → Read Syntax
  | 0 => fail
  | fuel + 1 => do
    let start ← startByte
    let items ← lambdaParameterItems fuel []
    finish .lambdaParameters start items
termination_by structural f => f

/-- The items of a lambda's parameter list. -/
def lambdaParameterItems : Nat → List Syntax → Read (List Syntax)
  | 0, _ => fail
  | fuel + 1, acc => do
    let v ← if ← sym "(" then multiVariableDeclaration fuel else variableDeclaration fuel false
    if ← optional "," then lambdaParameterItems fuel (v :: acc) else return (v :: acc).reverse
termination_by structural f _ => f

/-- An anonymous function: `fun`, an optional receiver, parameters, a result type and a body. -/
def anonymousFunction : Nat → Bool → Read Syntax
  | 0, _ => fail
  | fuel + 1, nl => do
    let start ← startByte
    expectWord "fun"
    let receiver ←
      if ← sym "(" then pure []
      else do
        let ty ← typed fuel
        expect "."
        pure ty
    let params ← functionValueParameters fuel
    let mut children := receiver ++ [params]
    if !(← stopsHere nl) && (← sym ":") then
      discard bump
      children := children ++ (← typed fuel)
    if !(← stopsHere nl) && ((← sym "\x7b") || (← sym "=")) then
      children := children ++ [← functionBody fuel nl]
    finish .anonymousFunction start children
termination_by structural f _ => f

/-- An object expression: `object`, optional supertypes, and a body. -/
def objectLiteral : Nat → Read Syntax
  | 0 => fail
  | fuel + 1 => do
    let start ← startByte
    expectWord "object"
    let supertypes ←
      if ← optional ":" then delegationSpecifiers fuel [] else pure []
    let body ← classBody fuel
    finish .objectLiteral start (supertypes ++ [body])
termination_by structural f => f

end

/-- A file annotation: `@file:` and one annotation or several in brackets. -/
def fileAnnotationNode (fuel : Nat) : Read Syntax := do
  let start ← startByte
  expect "@"
  expectWord "file"
  expect ":"
  let items ←
    if ← optional "[" then do
      let xs ← annotationBodies fuel []
      expect "]"
      pure xs
    else pure [← annotationBody fuel]
  finish .fileAnnotationNode start items

/-- The file annotations at the start of a file. -/
def fileAnnotations (fuel : Nat) : Nat → List Syntax → Read (List Syntax)
  | 0, acc => pure acc.reverse
  | n + 1, acc => do
    if (← sym "@") && (← wordAt 1 "file") && (← symAt 2 ":") then
      let a ← fileAnnotationNode fuel
      discard (skipSemicolons 64)
      fileAnnotations fuel n (a :: acc)
    else return acc.reverse

/-- Names separated by dots, stopping before a `.*`. -/
def identifierParts : Nat → List Syntax → Read (List Syntax)
  | 0, acc => pure acc.reverse
  | n + 1, acc => do
    let t ← bump
    if t.kind != .word then fail
    let acc := leaf .simpleIdentifier t :: acc
    if (← sym ".") && (← peekAt 1).any (·.kind == .word) then
      discard bump
      identifierParts n acc
    else return acc.reverse

/-- A dotted name. -/
def dottedIdentifier : Read Syntax := do
  let start ← startByte
  let parts ← identifierParts ((← read).size + 1) []
  finish .identifier start parts

/-- The package header, if there is one. -/
def packageHeader : Read (List Syntax) := do
  if !(← word "package") then return []
  let start ← startByte
  discard bump
  let name ← dottedIdentifier
  discard (optional ";")
  return [← finish .packageHeader start [name]]

/-- The index, counted from the next token, of the first name that follows on the same line
after the first `k` tokens, if one does. -/
def nameOnLine (k : Nat) : Read (Option Nat) := do
  let toks := (← read).toList.drop ((← position) + k)
  let onLine := toks.takeWhile fun t => !t.lineBreak
  return (onLine.findIdx? isIdentifier).map (· + k)

/-- One import: a name, then `.*` or an alias. The `.*` is one token, written without a gap; a
dot before a gap and a star fails the header. When more follows a `.*` on its line, the reading
that goes on with the dotted name is the one kept: what stands up to the next name on the line is
skipped, and that name and its own dotted parts end the name. -/
def importHeader : Read Syntax := do
  let start ← startByte
  expectWord "import"
  let nameStart ← startByte
  let first ← identifierParts ((← read).size + 1) []
  let nameStop ← stopByte
  let wildcard ← do
    match ← peekAt 0, ← peekAt 1 with
    | some dot, some star => pure (dot.text == "." && dot.kind == .symbol && star.text == "*" &&
        star.kind == .symbol && star.start = dot.stop)
    | _, _ => pure false
  if (← sym ".") && !wildcard then fail
  let resumed ← do
    if !wildcard then pure none
    else if (← peekAt 2).any fun t => !t.lineBreak && !(t.kind == .symbol && t.text == ";") then
      nameOnLine 2
    else pure none
  let rest ←
    match resumed with
    | some k => do
      for _ in [0:k] do discard bump
      let more ← identifierParts ((← read).size + 1) []
      pure [← finish .identifier nameStart (first ++ more)]
    | none => do
      let name := Tree.node Kind.identifier none ⟨nameStart, nameStop⟩ first
      if wildcard then do
        let wstart ← startByte
        discard bump
        discard bump
        pure [name, ← finish .wildcardImport wstart []]
      else if ← word "as" then do
        let astart ← startByte
        discard bump
        let other ← bump
        pure [name, ← finish .importAlias astart [leaf .typeIdentifier other]]
      else pure [name]
  discard (optional ";")
  finish .importHeader start rest

/-- An import that cannot be read, taken up to the end of its line as an error. -/
def brokenImport : Read Syntax := do
  let start ← startByte
  discard bump
  let rest := ((← read).toList.drop (← position)).takeWhile fun t => !t.lineBreak
  for _ in rest do discard bump
  finish .error start []

/-- The imports of a file. A blank line after an import, in the blanks that follow the last
comment before the next one, ends the list; the imports that come right after it are still
read, but as errors inside the list, so they neither count as imports nor become statements.
A header that cannot be read is an error inside the list as well. -/
def importHeaders : Nat → Bool → List Syntax → Read (List Syntax)
  | 0, _, acc => pure acc.reverse
  | n + 1, ended, acc => do
    if !(← word "import") then return acc.reverse
    let ended := ended || ((← peek).any (·.blankLine) && !acc.isEmpty)
    let item ←
      match ← attempt importHeader with
      | some h => pure (if ended then Tree.node Kind.error none h.span [h] else h)
      | none => brokenImport
    importHeaders n ended (item :: acc)

/-- The import list, if there are imports. -/
def importList : Read (List Syntax) := do
  let start ← startByte
  let headers ← importHeaders ((← read).size + 1) false []
  if headers.isEmpty then return [] else return [← finish .importList start headers]

end Kotlin
end ResultLint
