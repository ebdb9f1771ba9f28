import ResultLint.Config.Yaml.Token.Stream

/-!
# YAML documents

The nodes of YAML documents, read from their tokens.

A stream holds documents. The first may start without `---`; every later one must start with
`---`, after its directives, and `...` may end any of them. A document without content holds an
empty plain scalar.

A node is a scalar, a sequence, a mapping, or an alias. Before it may stand an anchor and a
tag, in either order; a node with either but no content is an empty plain scalar. A tag's handle
is replaced by its expansion: the document's `%TAG` directives first, then `!` for `!` and
`tag:yaml.org,2002:` for `!!`. A handle that names neither is refused.

Block collections take entries on lines of their own; a block sequence may stand in a mapping
at the mapping's own indentation. Flow collections are bracketed, their entries separated by
commas, and a flow sequence may hold single pairs `key: value`. A key or value left out is an
empty plain scalar.

An anchor is numbered where its node begins, so an alias inside the node may name it; an alias
names the latest node anchored with its name before it, and one that names none is refused.
-/

namespace ResultLint
namespace Config
namespace Yaml

/-- A node of a YAML document. An alias stands for the node with its anchor's number. -/
inductive Node where
  | scalar (text : String) (style : Style) (tag : Option String)
  | seq (items : List Node)
  | map (entries : List (Node × Node))
  | alias (id : Nat)
  deriving Repr, Inhabited

/-- A node that was left out. -/
def Node.empty : Node := .scalar "" .plain none

/-- A document: its root, and its anchored nodes by number. -/
structure Document where
  root : Node
  anchored : Array Node
  deriving Repr, Inhabited

/-- The handles every document may use, after its own. -/
def defaultHandles : List (String × String) := [("!", "!"), ("!!", "tag:yaml.org,2002:")]

/-- The state of reading nodes: the tokens left, and for the document being read its anchors,
its anchored nodes and its tag handles. -/
structure Reading where
  tokens : List Token
  anchors : List (String × Nat) := []
  anchored : Array Node := #[]
  handles : List (String × String) := []
  deriving Inhabited

/-- A reading step: it changes the state, or fails with the reason the text is refused. -/
abbrev Parse := StateT Reading (Except String)

namespace Parse

/-- The next token. -/
def peek : Parse Token := do return (← get).tokens.headD .streamEnd

/-- Passes the next token. -/
def advance : Parse Unit := modify fun r => { r with tokens := r.tokens.drop 1 }

/-- Numbers an anchor and binds its name to the number. -/
def register (name : String) : Parse Nat := do
  let r ← get
  let id := r.anchored.size
  set { r with anchors := (name, id) :: r.anchors, anchored := r.anchored.push Node.empty }
  return id

/-- Keeps the node of an anchor's number. -/
def keep (id : Nat) (n : Node) : Parse Unit :=
  modify fun r => { r with anchored := r.anchored.setIfInBounds id n }

/-- The anchor and tag before a node, in either order. -/
def properties : Parse (Option String × Option (String × String)) := do
  match ← peek with
  | .anchor a =>
    advance
    match ← peek with
    | .tag h s =>
      advance
      return (some a, some (h, s))
    | _ => return (some a, none)
  | .tag h s =>
    advance
    match ← peek with
    | .anchor a =>
      advance
      return (some a, some (h, s))
    | _ => return (none, some (h, s))
  | _ => return (none, none)

/-- A tag with its handle replaced by its expansion. -/
def resolve : Option (String × String) → Parse (Option String)
  | none => pure none
  | some (handle, suffix) => do
    if handle.isEmpty then return some suffix
    match (← get).handles.lookup handle with
    | some expansion => return some (expansion ++ suffix)
    | none => throw "found undefined tag handle"

/-- Whether a token ends what stands in a block after an entry indicator, a key or a value. -/
def endsBlockPart (t : Token) : Bool := t == .key || t == .value || t == .blockEnd

mutual

/-- A node, in a block or in a flow collection. Where `indentless`, a block sequence may start
without opening a block, as the value of a mapping entry at the mapping's indentation. -/
def node : Nat → Bool → Bool → Parse Node
  | 0, _, _ => throw "the document nests too deeply"
  | fuel + 1, block, indentless => do
    if let .alias name ← peek then
      advance
      match (← get).anchors.lookup name with
      | some id => return .alias id
      | none => throw "found unknown anchor"
    let (anchor, tag) ← properties
    let tag ← resolve tag
    let id ← anchor.mapM register
    let n ← content fuel block indentless (anchor.isSome || tag.isSome) tag
    if let some i := id then keep i n
    return n

/-- The content of a node after its properties. -/
def content : Nat → Bool → Bool → Bool → Option String → Parse Node
  | 0, _, _, _, _ => throw "the document nests too deeply"
  | fuel + 1, block, indentless, hasProperties, tag => do
    match ← peek with
    | .blockEntry =>
      if indentless then return .seq (← indentlessItems fuel [])
      else if hasProperties then return .scalar "" .plain tag
      else throw "did not find expected node content"
    | .scalar text style =>
      advance
      return .scalar text style tag
    | .flowSequenceStart =>
      advance
      return .seq (← flowItems fuel true [])
    | .flowMappingStart =>
      advance
      return .map (← flowEntries fuel true [])
    | .blockSequenceStart =>
      if block then
        advance
        return .seq (← blockItems fuel [])
      else if hasProperties then return .scalar "" .plain tag
      else throw "did not find expected node content"
    | .blockMappingStart =>
      if block then
        advance
        return .map (← blockEntries fuel [])
      else if hasProperties then return .scalar "" .plain tag
      else throw "did not find expected node content"
    | _ =>
      if hasProperties then return .scalar "" .plain tag
      else throw "did not find expected node content"

/-- The items of a block sequence, each after `-`, up to the end of its block. -/
def blockItems : Nat → List Node → Parse (List Node)
  | 0, _ => throw "the document nests too deeply"
  | fuel + 1, acc => do
    match ← peek with
    | .blockEntry =>
      advance
      let t ← peek
      let item ← if t == .blockEntry || t == .blockEnd then pure Node.empty else node fuel true false
      blockItems fuel (item :: acc)
    | .blockEnd =>
      advance
      return acc.reverse
    | _ => throw "did not find expected '-' indicator"

/-- The items of a block sequence at its mapping's indentation, up to the first token that is
not `-`. -/
def indentlessItems : Nat → List Node → Parse (List Node)
  | 0, _ => throw "the document nests too deeply"
  | fuel + 1, acc => do
    match ← peek with
    | .blockEntry =>
      advance
      let t ← peek
      let item ← if t == .blockEntry || endsBlockPart t then pure Node.empty else node fuel true false
      indentlessItems fuel (item :: acc)
    | _ => return acc.reverse

/-- The entries of a block mapping, each a key and the value after its `:`, up to the end of
its block. -/
def blockEntries : Nat → List (Node × Node) → Parse (List (Node × Node))
  | 0, _ => throw "the document nests too deeply"
  | fuel + 1, acc => do
    match ← peek with
    | .key =>
      advance
      let k ← if endsBlockPart (← peek) then pure Node.empty else node fuel true true
      let v ← blockValue fuel
      blockEntries fuel ((k, v) :: acc)
    | .blockEnd =>
      advance
      return acc.reverse
    | _ => throw "did not find expected key"

/-- The value of a block mapping entry. -/
def blockValue : Nat → Parse Node
  | 0 => throw "the document nests too deeply"
  | fuel + 1 => do
    if (← peek) == .value then
      advance
      if endsBlockPart (← peek) then return Node.empty
      node fuel true true
    else return Node.empty

/-- The value of a flow entry after its key, up to `,` or the token `closing`. -/
def flowValue : Nat → Token → Parse Node
  | 0, _ => throw "the document nests too deeply"
  | fuel + 1, closing => do
    if (← peek) == .value then
      advance
      let t ← peek
      if t == .flowEntry || t == closing then return Node.empty
      node fuel false false
    else return Node.empty

/-- The items of a flow sequence after `[`, up to `]`. An item that starts with a key is a
mapping of one entry; when that key is left out, the token after the key indicator is passed
over with it. -/
def flowItems : Nat → Bool → List Node → Parse (List Node)
  | 0, _, _ => throw "the document nests too deeply"
  | fuel + 1, first, acc => do
    if (← peek) == .flowSequenceEnd then
      advance
      return acc.reverse
    if !first then
      if (← peek) == .flowEntry then advance
      else throw "did not find expected ',' or ']'"
    match ← peek with
    | .key =>
      advance
      let t ← peek
      let k ←
        if t == .value || t == .flowEntry || t == .flowSequenceEnd then do
          advance
          pure Node.empty
        else node fuel false false
      let v ← flowValue fuel .flowSequenceEnd
      flowItems fuel false (.map [(k, v)] :: acc)
    | .flowSequenceEnd =>
      advance
      return acc.reverse
    | _ =>
      let item ← node fuel false false
      flowItems fuel false (item :: acc)

/-- The entries of a flow mapping after its opening brace, up to its closing one. An entry
without `:` has an empty value. -/
def flowEntries : Nat → Bool → List (Node × Node) → Parse (List (Node × Node))
  | 0, _, _ => throw "the document nests too deeply"
  | fuel + 1, first, acc => do
    if (← peek) == .flowMappingEnd then
      advance
      return acc.reverse
    if !first then
      if (← peek) == .flowEntry then advance
      else throw "did not find expected ',' or a closing brace"
    match ← peek with
    | .key =>
      advance
      let t ← peek
      let k ← if t == .value || t == .flowEntry || t == .flowMappingEnd then pure Node.empty
        else node fuel false false
      let v ← flowValue fuel .flowMappingEnd
      flowEntries fuel false ((k, v) :: acc)
    | .flowMappingEnd =>
      advance
      return acc.reverse
    | _ =>
      let k ← node fuel false false
      flowEntries fuel false ((k, Node.empty) :: acc)

end

/-- The directives before a document, and the handles it may use: its own `%TAG` directives,
then the default handles it does not redefine. At most one `%YAML` directive, of version 1.1
or 1.2, and no handle twice. -/
def directives : Nat → Bool → List (String × String) → Parse (List (String × String))
  | 0, _, _ => throw "too many directives"
  | fuel + 1, seenVersion, own => do
    match ← peek with
    | .versionDirective major minor =>
      if seenVersion then throw "found duplicate %YAML directive"
      if major ≠ 1 || (minor ≠ 1 && minor ≠ 2) then throw "found incompatible YAML document"
      advance
      directives fuel true own
    | .tagDirective handle expansion =>
      if own.any (·.1 == handle) then throw "found duplicate %TAG directive"
      advance
      directives fuel seenVersion (own ++ [(handle, expansion)])
    | _ => return own ++ defaultHandles.filter fun d => !own.any (·.1 == d.1)

/-- Whether a token ends a document's content before it starts. -/
def endsContent (t : Token) : Bool :=
  match t with
  | .versionDirective _ _ | .tagDirective _ _ | .documentStart | .documentEnd | .streamEnd => true
  | _ => false

/-- A document's content with the handles it may use, then its `...` if one follows. -/
def document (fuel : Nat) (handles : List (String × String)) (explicit : Bool) : Parse Document := do
  modify fun r => { r with anchors := [], anchored := #[], handles }
  let root ← if explicit && endsContent (← peek) then pure Node.empty else node fuel true false
  if (← peek) == .documentEnd then advance
  return { root, anchored := (← get).anchored }

/-- The documents after the first, each after its directives and `---`; stray `...` markers
are passed over. -/
def laterDocuments : Nat → List Document → Parse (List Document)
  | 0, _ => throw "too many documents"
  | n + 1, acc => do
    let rec skipEnds : Nat → Parse Unit
      | 0 => pure ()
      | k + 1 => do
        if (← peek) == .documentEnd then
          advance
          skipEnds k
    skipEnds ((← get).tokens.length + 1)
    if (← peek) == .streamEnd then return acc.reverse
    let handles ← directives ((← get).tokens.length + 1) false []
    if (← peek) != .documentStart then throw "did not find expected <document start>"
    advance
    let d ← document ((← get).tokens.length + 1) handles true
    laterDocuments n (d :: acc)

/-- The documents of a stream. -/
def stream : Parse (List Document) := do
  if (← peek) != .streamStart then throw "did not find expected <stream-start>"
  advance
  let budget := (← get).tokens.length + 1
  match ← peek with
  | .versionDirective _ _ | .tagDirective _ _ | .documentStart | .streamEnd =>
    laterDocuments budget []
  | _ =>
    let first ← document budget defaultHandles false
    laterDocuments budget [first]

end Parse

/-- The documents of a YAML text, read from its tokens. -/
def Document.ofTokens (tokens : Array Token) : Except String (List Document) :=
  Prod.fst <$> Parse.stream.run { tokens := tokens.toList }

end Yaml
end Config
end ResultLint
