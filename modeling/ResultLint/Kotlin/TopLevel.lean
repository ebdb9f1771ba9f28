import ResultLint.Kotlin.Grammar
import ResultLint.Recovery

/-!
# The statements of a Kotlin file

A file holds file annotations, a package header and imports, then statements, each ended by a
semicolon, a line break, or a semicolon assumed before the next token.

A statement that cannot be read is recovered by competing readings (`Recovery`): it is finished
with repairs, given up, or, when the list of statements lies too deep below it, the whole file
becomes one error. A statement of a block that cannot be read leaves the top-level statement
around it unread, so that recovery works on the whole top-level statement, from states inside
its bodies as well as outside. Of the ways it can end, the one whose cost, with the cost of reading the rest
of the file after it, is least is taken, the latest made on a tie. The rest of the file from a
token is read once and kept.

A declaration whose assumed semicolons meet across closing braces on one line is given up as a
whole; when more than sixteen trees stand above the list at the first of those braces, the file
becomes one error that holds the statements before it and the finished trees of the declaration.
-/

namespace ResultLint
namespace Kotlin

open Read

/-- A top-level statement and what ends it: a semicolon, which is taken, the end of the text, or
a token that a statement may end before. -/
def terminatedStatement (fuel : Nat) : Read (List Syntax) := do
  let items ← statement fuel true
  if ← optional ";" then return items
  match ← peek with
  | none => return items
  | some t => if endsStatement t then return items else fail

/-- Whether a token may come after a finished top-level statement: a semicolon, or a token that
starts a statement. The keywords that only join or continue an expression start none. -/
def startsTopLevel (t : Token) : Bool :=
  startsExpression t || (t.kind == .word && !(["as", "else", "in", "is"].contains t.text)) ||
    (t.kind == .symbol && t.text == ";")

/-- A top-level statement read as an item over any token array: its nodes, carried in one node
that reaches past every token, so that the carrier is never taken for a finished tree. -/
def topStatementReading (fuel : Nat) : ItemReading Token Kind := fun toks s =>
  match runFrom (terminatedStatement fuel) toks s with
  | .ok (items, st) =>
    let first := (toks[s]?.map Token.start).getD 0
    let past := (toks.back?.map Token.stop).getD 0 + 1
    .ok (some (.node .statements none ⟨first, past⟩ items), st.pos)
  | .error stop => .error stop

/-- The number of line breaks among the bytes from `a` up to `b` of a text. -/
def lineBreaks (bytes : ByteArray) (a b : Nat) : Nat :=
  ((List.range' a (b - a)).filter fun i => bytes[i]? == some 10).length

/-- Words that the grammar spells out somewhere, so that the lexer gives them as keywords; any
other word is a plain name. -/
def keywordWords : List String :=
  hardKeywords ++ modifierWords ++ declarationWords ++ useSiteTargets ++
    ["by", "where", "constructor", "init", "companion", "catch", "finally", "import", "dynamic",
     "out", "reified"]

/-- Whether a token passed over in an error stands for no tree: a plain name, a semicolon, which
the error state reads as an automatic one, and a piece of a character literal's body other than
the \u that starts a unicode escape. -/
def isHiddenToken (t : Token) : Bool :=
  (t.kind == .word && !keywordWords.contains t.text) || (t.kind == .symbol && t.text == ";") ||
    (t.kind == .characterPart && t.text != "\\u")

/-- How recovery sees Kotlin's top-level statements. -/
def recoverySetting (fuel : Nat) (bytes : ByteArray) : Recovery.Setting Token Kind :=
  { shape := tokenShape, read := topStatementReading fuel, follows := startsTopLevel,
    rows := lineBreaks bytes, boundary := fun t => t.lineBreak && endsStatement t,
    afterBoundary := fun t => { t with lineBreak := true }, hidden := isHiddenToken,
    silent := Token.silent }

/-- Whether the token at position `k` is a closing brace. -/
def closesAt (toks : Array Token) (k : Nat) : Bool :=
  (toks[k]?.map fun t => t.kind == .symbol && t.text == "\x7d").getD false

/-- The first of the assumed semicolons `gaps` from which closing braces alone reach another:
bodies closing on one line after a declaration. -/
def collapsePoint (toks : Array Token) (gaps : List Nat) : Option Nat :=
  (gaps.filter fun i => gaps.any fun j =>
    i < j && (List.range' i (j - i + 1)).all (closesAt toks)).min?

/-- How the statements of a file are read from a token on: their nodes, the cost of the repairs
made, and whether the file became one error that holds the nodes. -/
structure Remainder where
  items : List Syntax := []
  cost : Nat := 0
  broken : Bool := false
  deriving Inhabited

/-- The cheaper of two ways to read the rest of a file, each with the order it was made in; the
later one on a tie. -/
def Remainder.least (a b : Nat × Remainder) : Nat × Remainder :=
  if b.2.cost < a.2.cost || (b.2.cost == a.2.cost && b.1 ≥ a.1) then b else a

section

variable (fuel : Nat) (toks : Array Token) (bytes : ByteArray)

/-- The byte the list of statements stands at before the token at position `s`. -/
def listByte (s : Nat) : Nat :=
  if s = 0 then 0 else (toks[s - 1]?.map Token.stop).getD 0

/-- The finished trees among what a stranded reading holds: the file around them is one error. -/
def strandedTrees (held : Array Token) : List Syntax :=
  let limit := (held.back?.map Token.stop).getD 0
  match Recovery.finishedItem (recoverySetting fuel bytes) (held.size + 8) held with
  | some t => (frontier tokenShape held.toList limit t).2
  | none => []

/-- The statements of a file from the token at position `s` on. Each position is read once and
its reading kept in the table. -/
def statementsFrom : Nat → Nat → StateM (Array (Option Remainder)) Remainder
  | 0, _ => pure {}
  | n + 1, s => do
    if let some (some r) := (← get)[s]? then return r
    let r ← match toks[s]? with
      | none => pure {}
      | some t =>
        if t.kind == .symbol && t.text == ";" then statementsFrom n (s + 1)
        else
          match runFrom (terminatedStatement fuel) toks s with
          | .ok (items, st) =>
            let p := st.pos
            let next := p
            if p ≤ s then statementsFrom n (s + 1)
            else
              match collapsePoint toks st.assumed with
              | some c =>
                let limit := (toks[c - 1]?.map Token.stop).getD 0
                let (starts, named) := frontierAll tokenShape (toks.extract s p).toList limit items
                if starts.length > Recovery.summaryDepth then pure { items := named, broken := true }
                else statementsFrom n next
              | none =>
                let rest ← statementsFrom n next
                pure { rest with items := items ++ rest.items }
          | .error stop =>
            let setting := recoverySetting fuel bytes
            let ways := Recovery.outcomes setting toks (listByte toks s) (toks.extract s stop.reach)
              (max s stop.reach)
            let endings ← ways.mapM fun v => do
              let after := if v.next ≤ s then s + 1 else v.next
              match v.phase with
              | .finished =>
                let rest ← statementsFrom n after
                let nodes := match topStatementReading fuel v.held 0 with
                  | .ok (some node, _) => node.children
                  | _ => []
                pure (v.order, { rest with items := nodes ++ rest.items, cost := v.cost + rest.cost })
              | .abandoned =>
                let rest ← statementsFrom n after
                pure (v.order, { rest with cost := v.cost + rest.cost })
              | _ =>
                pure (v.order, { items := strandedTrees fuel bytes v.held, broken := true, cost := v.cost })
            match endings with
            | [] => statementsFrom n (s + 1)
            | e :: es => pure (es.foldl Remainder.least e).2
    modify (·.set! s (some r))
    return r

end

/-- The file annotations, package header and imports at the start of a file. -/
def fileHeader (fuel : Nat) : Read (List Syntax) := do
  let annotations ← fileAnnotations fuel ((← read).size + 1) []
  let package ← packageHeader
  let imports ← importList
  return annotations ++ package ++ imports

/-- The length of a first line that starts with `#!`. -/
def shebangLength (text : String) : Nat :=
  match text.toList with
  | '#' :: '!' :: rest => byteLength ('#' :: '!' :: rest.takeWhile fun c => c ≠ '\n' && c ≠ '\r')
  | _ => 0

/-- The syntax tree of a Kotlin source text. The root covers the text from its first token or
comment to its end; it is an error when recovery gave the whole file up. -/
def parse (text : String) : Syntax :=
  let shebang := shebangLength text
  let toks := (tokenize text).filter fun t => t.start ≥ shebang
  let fuel := 64 * (toks.size + 4)
  let size := text.utf8ByteSize
  let first := byteLength (Text.leadingLayout text.toList)
  let rootStart := if first ≥ size then size else first
  let header := if shebang > 0 then [Tree.node Kind.shebangLine none ⟨0, shebang⟩ []] else []
  match Read.runFrom (fileHeader fuel) toks 0 with
  | .ok (items, st) =>
    let rest := (Id.run ((statementsFrom fuel toks text.toUTF8 (toks.size + 2) st.pos).run
      (Array.replicate (toks.size + 1) none))).1
    let kind := if rest.broken then Kind.error else Kind.sourceFile
    .node kind none ⟨rootStart, size⟩ (header ++ items ++ rest.items)
  | .error _ => .node .sourceFile none ⟨rootStart, size⟩ header

end Kotlin
end ResultLint
