import ResultLint.Java.Grammar

/-!
# Reading whole Java files

A file is read item by item. An item that cannot be read is passed over one token at a time.
A file that stops inside an item is repaired in one of two ways, whichever costs less:

* the tokens that would close the item are taken as missing, each at the end of the text; this
  is open only when each missing token leaves the reading able to end there, as a closing brace
  of a block or a type body, or a semicolon that ends a statement, does;
* what was read of the file becomes one error node. When each missing token could have ended
  the reading where it stands, the error is the root of the tree and holds every tree read so
  far; otherwise the item is given up, and the tree holds only the items read before it.

Missing tokens cost 610 each. The error node costs 500, one per byte and 30 per line it spans,
and 100 per tree it holds, where the trees of an unfinished node are its finished children and
its own tokens. The missing tokens win a tie.

The trees of a completed item are found by reading it with the missing tokens placed past the
end of the text: a node that reaches past the end is unfinished.
-/

namespace ResultLint
namespace Java

/-- Reads one item from position `start`: the item, if it leaves a node, and the cursor after it;
or the furthest position the reading reached. -/
def readItem (fuel : Nat) (toks : Array Token) (start : Nat) : Except Stop (Option Syntax × Cursor) :=
  Read.runFrom (topLevel fuel) toks start

/-- Extends a token array that stops inside the item at `start` with missing tokens, placed from
byte `base` on, until the item reads to its end. Each added token is the first candidate that
the reading takes. -/
def complete (fuel start base : Nat) : Nat → Array Token → Option (Syntax × Array Token)
  | 0, _ => none
  | n + 1, toks =>
    match readItem fuel toks start with
    | .ok (some item, c) => if c.next == toks.size then some (item, toks) else none
    | .ok (none, _) => none
    | .error _ =>
      let pos := base + toks.size
      let step := closingCandidates.findSome? fun (text, isName) =>
        let more := toks.push (missingToken text isName pos)
        match readItem fuel more start with
        | .ok (some _, c) => if c.next == more.size then some more else none
        | .ok (none, _) => none
        | .error stop => if stop.reach ≥ more.size then some more else none
      match step with
      | some more => complete fuel start base n more
      | none => none

/-- Whether a token taken as missing at the end leaves the reading able to end there, given the
node it stands in: a brace that closes a block or a type body, or a semicolon that ends a
statement, an import, a package or a method. -/
def endsReading (t : Token) (parent : Kind) : Bool :=
  if t.kind != .symbol then false
  else if t.text == "\x7d" then
    [Kind.block, .classBody, .interfaceBody, .enumBody, .annotationTypeBody, .switchBlock].contains parent
  else if t.text == ";" then
    [Kind.expressionStatement, .localVariableDeclaration, .returnStatement, .breakStatement,
     .continueStatement, .throwStatement, .yieldStatement, .assertStatement, .doStatement,
     .importDeclaration, .packageDeclaration, .methodDeclaration, .ifStatement, .whileStatement,
     .labeledStatement, .block].contains parent
  else false

mutual

/-- The innermost node of a tree that covers byte `p`. -/
def innermost (p : Nat) : Syntax → Option Syntax
  | t@(.node _ _ span children) =>
    if span.start ≤ p ∧ p ≤ span.stop then some ((innermostAll p children).getD t) else none

/-- The innermost node of the first of some trees that covers byte `p`. -/
def innermostAll (p : Nat) : List Syntax → Option Syntax
  | [] => none
  | t :: ts => (innermost p t).orElse fun _ => innermostAll p ts

end

/-- What is known of a text while its items are read. -/
structure FileText where
  size : Nat
  /-- The first byte of the first token or comment. -/
  rootStart : Nat
  /-- The byte after the last token or comment. -/
  lastStop : Nat
  /-- The number of line breaks from the root's start to the end. -/
  rows : Nat
  deriving Repr, Inhabited

/-- The tree of a file whose last item stops short: `before` are the items read before it, as
many trees as `trees`, and `item` is the item completed by the missing tokens `missing`. When
the missing tokens cost more than an error node, the error node holds what was read of the
item. It is the root, holding every tree read so far, when each missing token could end the
reading where it stands; otherwise the item's reading is given up and the error is left out of
the tree, after the items read before it. -/
def repairEnd (f : FileText) (toks : Array Token) (before : List Syntax) (trees : Nat)
    (item : Syntax) (missing : List Token) : Syntax :=
  let allowed := missing.all fun t =>
    match innermost t.start item with
    | some p => endsReading t p.kind
    | none => false
  let (starts, named) := frontier tokenShape toks.toList f.size item
  let count := starts.length
  let c := repairCosts
  let wrapped := c.recovery + (f.size - f.rootStart) + c.line * f.rows + c.tree * (trees + count)
  if allowed && c.missing * missing.length ≤ wrapped then
    let clamp (s : Span) : Span :=
      ⟨if s.start > f.size then f.lastStop else s.start, if s.stop > f.size then f.lastStop else s.stop⟩
    .node .program none ⟨f.rootStart, f.size⟩ (before ++ [item.mapSpan clamp])
  else if allowed then .node .error none ⟨f.rootStart, f.size⟩ (before ++ named)
  else .node .program none ⟨f.rootStart, f.size⟩ before

/-- Reads the items of a file from position `pos`. `acc` holds the items read, last first, and
`trees` counts them with the empty statements; `clean` says that no token was passed over. An
item that the end of the file cuts short is completed by missing tokens when the file has read
cleanly so far or an item was read before it: a file of nothing but unreadable tokens is one
error. -/
def readItems (fuel : Nat) (f : FileText) (toks : Array Token) :
    Nat → Nat → List Syntax → Nat → Bool → Syntax
  | 0, _, acc, _, _ => .node .program none ⟨f.rootStart, f.size⟩ acc.reverse
  | n + 1, pos, acc, trees, clean =>
    if pos ≥ toks.size then .node .program none ⟨f.rootStart, f.size⟩ acc.reverse
    else
      match readItem fuel toks pos with
      | .ok (item, c) =>
        if c.next ≤ pos then readItems fuel f toks n (pos + 1) acc trees false
        else readItems fuel f toks n c.next (item.toList ++ acc) (trees + 1) clean
      | .error stop =>
        let repaired :=
          if (clean || !acc.isEmpty) && stop.reach ≥ toks.size then
            complete fuel pos (f.size + 1) (toks.size + 8) toks
          else none
        match repaired with
        | some (item, all) =>
          repairEnd f toks acc.reverse trees item (all.toList.drop toks.size)
        | none =>
          let reads (k : Nat) : Bool := k ≥ toks.size || (readItem fuel toks k).toBool
          let fixed := if stop.reach ≥ toks.size || stop.settled || stop.reach ≤ pos then none
            else repairItem tokenShape (itemReading (topLevel fuel)) continuesBlock toks pos stop.reach
          match fixed with
          | some rep =>
            if rep.next > pos && reads rep.next then
              readItems fuel f toks n rep.next (rep.item.toList ++ acc) (trees + 1) clean
            else readItems fuel f toks n (pos + 1) acc trees false
          | none => readItems fuel f toks n (pos + 1) acc trees false

/-- The syntax tree of a Java source text. The root covers the text from its first token or
comment to its end; a byte order mark at the start is passed over. -/
def parse (text : String) : Syntax :=
  let toks := tokenize text
  let fuel := 64 * (toks.size + 4)
  let size := text.utf8ByteSize
  let chars := text.toList
  let lead := Text.leadingLayout chars
  let first := byteLength lead
  let rootStart := if first ≥ size then size else first
  let trailing := byteLength (chars.reverse.takeWhile Text.isBlank)
  let rows := ((chars.drop lead.length).filter (· == '\n')).length
  let f : FileText := { size, rootStart, lastStop := size - trailing, rows }
  readItems fuel f toks (toks.size + 1) 0 [] 0 true

end Java
end ResultLint
