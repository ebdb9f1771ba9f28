import ResultLint.Config.Yaml.Token.Scalar

/-!
# The tokens of a YAML text

Cuts a whole text into tokens, from the stream's start to its end.

Between tokens the scan passes spaces, comments and line breaks; tabs only inside flow
collections or where no key may begin, and a byte order mark at the start of a line.

Indentation opens and closes block collections. A `-`, `?` or `:` further right than the
innermost block collection opens a new one there, and a token left of it closes it. A key
written without `?` is known only at the `:` after it: each flow level keeps the place where
its key may have begun, and the `:` puts a key token there, and a block mapping start when the
place opens a new block. The place is forgotten when the line ends or after 1024 characters;
one that had to hold a key, at the indentation of its block mapping, is then refused.
-/

namespace ResultLint
namespace Config
namespace Yaml

open Scan

/-- The longest a key written without `?` may be. -/
def keyReach : Nat := 1024

/-- Forgets the possible keys that the scan has left behind: on an earlier line or more than
`keyReach` characters back. A required key left behind is refused. -/
def staleKeys : Scan Unit := do
  let s ← get
  let keys ← s.keys.mapM fun k =>
    if k.possible && (k.mark.line < s.mark.line || k.mark.index + keyReach < s.mark.index) then
      if k.required then throw "could not find expected ':'"
      else pure { k with possible := false }
    else pure k
  set { s with keys }

/-- Forgets the possible key of the current flow level; a required one is refused. -/
def removeKey : Scan Unit := do
  let s ← get
  match s.keys with
  | k :: rest =>
    if k.possible && k.required then throw "could not find expected ':'"
    set { s with keys := { k with possible := false } :: rest }
  | [] => pure ()

/-- Notes that a key may begin here, if one may. It is required when it starts a line of a
block mapping at its indentation. -/
def saveKey : Scan Unit := do
  let s ← get
  if s.keyAllowed then
    let key : SimpleKey :=
      { possible := true, required := s.flowLevel = 0 && s.indent = (s.mark.column : Int),
        tokenNumber := s.tokens.size, mark := s.mark }
    removeKey
    modify fun s => { s with keys := key :: s.keys.drop 1 }

/-- Enters a flow collection, with no possible key yet. -/
def enterFlow : Scan Unit :=
  modify fun s => { s with keys := {} :: s.keys, flowLevel := s.flowLevel + 1 }

/-- Leaves a flow collection. -/
def leaveFlow : Scan Unit :=
  modify fun s => if s.flowLevel > 0 then { s with flowLevel := s.flowLevel - 1, keys := s.keys.drop 1 } else s

/-- Opens a block collection at `column` with the token `t`, if it lies right of the innermost
one, outside flow collections: at the end, or at token number `place`. -/
def openBlock (column : Int) (place : Option Nat) (t : Token) : Scan Unit := modify fun s =>
  if s.flowLevel > 0 || column ≤ s.indent then s
  else
    let tokens := match place with
      | none => s.tokens.push t
      | some n => s.tokens.insertIdxIfInBounds n t
    { s with indents := s.indent :: s.indents, indent := column, tokens }

/-- Closes the block collections right of `column`, each with an end token. -/
def closeBlocks (column : Int) : Int → List Int → Array Token → Int × List Int × Array Token
  | indent, outer :: rest, tokens =>
    if indent > column then closeBlocks column outer rest (tokens.push .blockEnd)
    else (indent, outer :: rest, tokens)
  | indent, [], tokens => (indent, [], tokens)

/-- Closes the block collections right of `column`, outside flow collections. -/
def unwind (column : Int) : Scan Unit := modify fun s =>
  if s.flowLevel > 0 then s
  else
    let (indent, indents, tokens) := closeBlocks column s.indent s.indents s.tokens
    { s with indent, indents, tokens }

/-- Passes spaces, comments and line breaks up to the next token. After a line break outside
flow collections a key may begin. -/
def toNextToken : Nat → Scan Unit
  | 0 => pure ()
  | n + 1 => do
    if (← column) = 0 && (← ahead 0) = '\uFEFF' then skip
    let s ← get
    let tabs := s.flowLevel > 0 || !s.keyAllowed
    skipWhile fun c => c = ' ' || (tabs && c = '\t')
    if (← ahead 0) = '#' then skipWhile fun _ => true
    if isLineBreak (← ahead 0) then
      skipBreak
      if !(← inFlow) then modify fun s => { s with keyAllowed := true }
      toNextToken n

/-- Ends the stream: the line is ended, every block collection closed, and the possible key
forgotten. -/
def streamEnd : Scan Unit := do
  modify fun s =>
    if s.mark.column ≠ 0 then { s with mark := { s.mark with column := 0, line := s.mark.line + 1 } }
    else s
  unwind (-1)
  removeKey
  modify fun s => { s with keyAllowed := false, finished := true }
  emit .streamEnd

/-- A directive or document marker, which ends every block collection and possible key. -/
def documentLevel (read : Scan Token) : Scan Unit := do
  unwind (-1)
  removeKey
  modify fun s => { s with keyAllowed := false }
  emit (← read)

/-- The `:` before a value. It makes the possible key a key, opening a block mapping there if
it lies right of the innermost block; without one, the key was written with `?` or is empty. -/
def valueIndicator : Scan Unit := do
  let s ← get
  match s.keys with
  | k :: rest =>
    if k.possible then
      modify fun s => { s with tokens := s.tokens.insertIdxIfInBounds k.tokenNumber .key }
      openBlock k.mark.column (some k.tokenNumber) .blockMappingStart
      modify fun s => { s with keys := { k with possible := false } :: rest, keyAllowed := false }
    else
      if s.flowLevel = 0 then
        if !s.keyAllowed then throw "mapping values are not allowed in this context"
        openBlock s.mark.column none .blockMappingStart
      modify fun s => { s with keyAllowed := s.flowLevel = 0 }
  | [] => pure ()
  skip
  emit .value

/-- Reads the next token, with the block ends and keys that come before it. -/
def fetchNext : Scan Unit := do
  toNextToken (← budget)
  staleKeys
  unwind (← column)
  let c ← ahead 0
  let next ← ahead 1
  let atLineStart := (← column) = 0
  let flow ← inFlow
  let s ← get
  if c = endChar then streamEnd
  else if atLineStart && c = '%' then documentLevel directiveToken
  else if atLineStart && (← atDocumentMarker) then
    documentLevel do
      skip
      skip
      skip
      pure (if c = '-' then .documentStart else .documentEnd)
  else if c = '[' || c = '\x7b' then
    saveKey
    enterFlow
    modify fun s => { s with keyAllowed := true }
    skip
    emit (if c = '[' then .flowSequenceStart else .flowMappingStart)
  else if c = ']' || c = '\x7d' then
    removeKey
    leaveFlow
    modify fun s => { s with keyAllowed := false }
    skip
    emit (if c = ']' then .flowSequenceEnd else .flowMappingEnd)
  else if c = ',' then
    removeKey
    modify fun s => { s with keyAllowed := true }
    skip
    emit .flowEntry
  else if c = '-' && isSeparator next then
    if !flow then
      if !s.keyAllowed then throw "block sequence entries are not allowed in this context"
      openBlock s.mark.column none .blockSequenceStart
    removeKey
    modify fun s => { s with keyAllowed := true }
    skip
    emit .blockEntry
  else if c = '?' && (flow || isSeparator next) then
    if !flow then
      if !s.keyAllowed then throw "mapping keys are not allowed in this context"
      openBlock s.mark.column none .blockMappingStart
    removeKey
    modify fun s => { s with keyAllowed := !flow }
    skip
    emit .key
  else if c = ':' && (flow || isSeparator next) then valueIndicator
  else if c = '*' || c = '&' then
    saveKey
    modify fun s => { s with keyAllowed := false }
    let name ← anchorName
    emit (if c = '*' then .alias name else .anchor name)
  else if c = '!' then
    saveKey
    modify fun s => { s with keyAllowed := false }
    emit (← tagToken)
  else if (c = '|' || c = '>') && !flow then
    removeKey
    modify fun s => { s with keyAllowed := true }
    emit (← blockScalar (c = '|'))
  else if c = '\'' || c = '"' then
    saveKey
    modify fun s => { s with keyAllowed := false }
    emit (← quotedScalar (c = '\''))
  else if !(isSeparator c || isIndicator c) || (c = '-' && !isBlankChar next) ||
      (!flow && (c = '?' || c = ':') && !isSeparator next) then
    saveKey
    modify fun s => { s with keyAllowed := false }
    emit (← plainScalar)
  else throw "found character that cannot start any token"

/-- Reads tokens up to the end of the stream. -/
def fetchAll : Nat → Scan Unit
  | 0 => throw "the text is too long"
  | n + 1 => do
    fetchNext
    if !(← get).finished then fetchAll n

/-- The tokens of a YAML text, from the stream's start to its end. A text that holds a
character that is not printable, or cannot be cut into tokens, is refused. -/
def Token.scan (text : String) : Except String (Array Token) := do
  let cs := text.toList
  if !cs.all isPrintable then throw "control characters are not allowed"
  let ((), s) ← (fetchAll (cs.length + 2)).run { rest := cs }
  return s.tokens

end Yaml
end Config
end ResultLint
