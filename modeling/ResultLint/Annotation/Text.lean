import ResultLint.Annotation

/-!
# Reading annotations from their source text

An annotation is written `@Name`, `@a.b.Name(...)`, with an optional use-site target
(`@get:Name`, `@file:Name`), or as a bracketed group `@file:[A B(x = "1")]` that stands for
several annotations. Arguments are kept only when they are string literals: every
`key = "value"` pair is an attribute, and a lone positional string is the attribute `value`.
Inside a literal, `\n` and `\t` stand for a newline and a tab, and a backslash before any
other character stands for that character.
-/

namespace ResultLint
namespace Annotation

/-- Splits a string literal's body off the text after its opening quote: characters up to the
first unescaped quote, where a backslash escapes any character except a newline. Returns the
body as written and the text from where the body stops. -/
def quotedBody : List Char → List Char × List Char
  | [] => ([], [])
  | '"' :: rest => ([], '"' :: rest)
  | '\\' :: c :: rest =>
    if c = '\n' then ([], '\\' :: c :: rest)
    else
      let (body, after) := quotedBody rest
      ('\\' :: c :: body, after)
  | c :: rest =>
    if c = '\\' then ([], c :: rest)
    else
      let (body, after) := quotedBody rest
      (c :: body, after)

/-- Resolves the escapes of a literal's body. -/
def unescape : List Char → List Char
  | [] => []
  | '\\' :: c :: rest =>
    (if c = 'n' then '\n' else if c = 't' then '\t' else c) :: unescape rest
  | c :: rest => c :: unescape rest

/-- A literal that starts the text: its unescaped value and the text after its closing quote. -/
def literal? : List Char → Option (List Char × List Char)
  | '"' :: rest =>
    match quotedBody rest with
    | (body, '"' :: after) => some (unescape body, after)
    | _ => none
  | _ => none

/-- A `key = "value"` pair that starts the text, with the number of characters it spans. -/
def pairAt? (cs : List Char) : Option (String × String × Nat) :=
  let key := cs.takeWhile Text.isWordChar
  if key.isEmpty then none
  else
    let afterKey := Text.dropBlanks (cs.drop key.length)
    match afterKey with
    | '=' :: rest =>
      match literal? (Text.dropBlanks rest) with
      | some (value, after) =>
        some (String.ofList key, String.ofList value, cs.length - after.length)
      | none => none
    | _ => none

/-- Every `key = "value"` pair of an argument list, leftmost first, each pair starting after
the previous one ends. -/
def pairs (cs : List Char) : List (String × String) :=
  if h : cs = [] then []
  else
    match pairAt? cs with
    | some (key, value, n) => (key, value) :: pairs (cs.drop (max n 1))
    | none => pairs cs.tail
termination_by cs.length
decreasing_by
  all_goals
    have hlen : cs.length ≠ 0 := by simpa using h
    simp only [List.length_drop, List.length_tail]
    omega

/-- An argument list that is one string literal, blanks around it allowed. -/
def positional? (cs : List Char) : Option String :=
  match literal? (Text.dropBlanks cs) with
  | some (value, after) => if after.all Text.isBlank then some (String.ofList value) else none
  | none => none

/-- The string attributes of an argument list. -/
def attributesOf (args : List Char) : Dictionary String :=
  let named := Dictionary.ofList (pairs args)
  if named.isEmpty then
    match positional? args with
    | some v => Dictionary.ofList [("value", v)]
    | none => {}
  else named

/-- Drops a use-site target such as `file:` or `get:` from the front of an annotation. -/
def dropUseSiteTarget (body : List Char) : List Char :=
  match Text.dropBlanks (body.dropWhile fun c => Text.isAlphanumeric c || c == '_') with
  | ':' :: rest => Text.dropBlanks rest
  | _ => body

/-- The position of the last occurrence of a character. -/
def lastIndexOf? (c : Char) (cs : List Char) : Option Nat :=
  (cs.reverse.idxOf? c).map fun k => cs.length - 1 - k

/-- One annotation written without its `@`: the name before any `(` or `<`, blanks removed,
and the arguments between the first `(` and the last `)`. -/
def ofMember? (entry : List Char) (imports : List String) (package : Option String) :
    Option Annotation :=
  let (namePart, args) : List Char × Option (List Char) :=
    match entry.idxOf? '(' with
    | some openAt =>
      let closeAt := (lastIndexOf? ')' entry).getD entry.length
      (entry.take openAt, some ((entry.drop (openAt + 1)).take (max closeAt (openAt + 1) - (openAt + 1))))
    | none => (entry, none)
  let name := (namePart.takeWhile (· != '<')).filter fun c => !Text.isBlank c
  if name.isEmpty then none
  else
    let written := String.ofList name
    some {
      name := written
      qualifiedName := TypeName.resolve written imports package
      attributes := (args.map attributesOf).getD {} }

/-- Splits a bracketed group at blanks that are outside parentheses and string literals. -/
def splitGroup : List Char → Nat → Bool → Option (List Char) → List (List Char)
  | [], _, _, current => (current.map List.reverse).toList
  | c :: rest, depth, inString, current =>
    let extend := some (c :: current.getD [])
    if c = '"' then splitGroup rest depth (!inString) extend
    else if c = '(' ∧ !inString then splitGroup rest (depth + 1) inString extend
    else if c = ')' ∧ !inString then splitGroup rest (depth - 1) inString extend
    else if Text.isBlank c ∧ depth = 0 ∧ !inString then
      (current.map List.reverse).toList ++ splitGroup rest depth inString none
    else splitGroup rest depth inString extend

/-- The annotations written in the source text of one annotation. -/
def ofText (text : String) (imports : List String) (package : Option String) :
    List Annotation :=
  match Text.dropBlanksEnd (Text.dropBlanks text.toList) with
  | '@' :: body =>
    match dropUseSiteTarget body with
    | '[' :: group =>
      let trimmed := Text.dropBlanksEnd group
      let members := if trimmed.getLast? = some ']' then trimmed.dropLast else group
      (splitGroup members 0 false none).filterMap (ofMember? · imports package)
    | single => (ofMember? single imports package).toList
  | _ => []

end Annotation
end ResultLint
