/-!
# YAML tokens

A YAML text is first cut into tokens: indicators, scalars with the text they stand for,
anchors, aliases, tags and directives. Indentation is told by tokens as well: a block
collection opens with a start token where its first entry sits further right than the block
around it, and closes with an end token where a line goes back left of it.

This module holds the tokens, the characters YAML gives a meaning to, and the state of a scan:
the text left, the position reached, how deep in flow collections and blocks the scan is, and
where a key written without `?` may still begin.
-/

namespace ResultLint
namespace Config
namespace Yaml

/-- A position in a text: the characters read, the lines passed, and the characters since the
last line break. A `\r\n` counts as two characters and one break. -/
structure Mark where
  index : Nat := 0
  line : Nat := 0
  column : Nat := 0
  deriving Repr, Inhabited, DecidableEq

/-- How a scalar is written. -/
inductive Style where
  | plain
  | singleQuoted
  | doubleQuoted
  /-- A block scalar after `|`, whose line breaks are kept. -/
  | literal
  /-- A block scalar after `>`, whose line breaks are folded. -/
  | folded
  deriving Repr, Inhabited, DecidableEq

/-- A token of a YAML text. -/
inductive Token where
  | streamStart
  | streamEnd
  /-- `%YAML major.minor` -/
  | versionDirective (major minor : Nat)
  /-- `%TAG handle expansion`: tags written with the handle stand for the expansion followed by
  their suffix. -/
  | tagDirective (handle expansion : String)
  /-- `---` -/
  | documentStart
  /-- `...` -/
  | documentEnd
  | blockSequenceStart
  | blockMappingStart
  | blockEnd
  /-- `[` -/
  | flowSequenceStart
  /-- `]` -/
  | flowSequenceEnd
  /-- An opening brace. -/
  | flowMappingStart
  /-- A closing brace. -/
  | flowMappingEnd
  /-- `-` before an item of a block sequence. -/
  | blockEntry
  /-- `,` between the entries of a flow collection. -/
  | flowEntry
  /-- The start of a key, written as `?` or found before a `:`. -/
  | key
  /-- `:` before a value. -/
  | value
  /-- `*name` -/
  | alias (name : String)
  /-- `&name` -/
  | anchor (name : String)
  /-- `!suffix`, `!handle!suffix` or `!<verbatim>`, whose handle is empty. -/
  | tag (handle suffix : String)
  | scalar (text : String) (style : Style)
  deriving Repr, Inhabited, DecidableEq

/-- The character read past the end of the text; no text holds it, since it is not printable. -/
def endChar : Char := '\x00'

/-- Whether a character breaks a line: carriage return, line feed, next line, and the line
and paragraph separators. -/
def isLineBreak (c : Char) : Bool :=
  c = '\r' || c = '\n' || c = '\x85' || c = '\u2028' || c = '\u2029'

/-- Whether a character is a blank: a space or a tab. -/
def isBlankChar (c : Char) : Bool := c = ' ' || c = '\t'

/-- Whether a character separates: a blank, a line break, or the end of the text. -/
def isSeparator (c : Char) : Bool := isBlankChar c || isLineBreak c || c = endChar

/-- Whether a character ends a line: a line break or the end of the text. -/
def isLineEnd (c : Char) : Bool := isLineBreak c || c = endChar

/-- Whether a character may stand in an anchor, a tag handle or a directive name: an ASCII
letter or digit, `_` or `-`. -/
def isWordChar (c : Char) : Bool :=
  ('0' ≤ c && c ≤ '9') || ('A' ≤ c && c ≤ 'Z') || ('a' ≤ c && c ≤ 'z') || c = '_' || c = '-'

/-- The value of a hexadecimal digit. -/
def hexDigit? (c : Char) : Option Nat :=
  if '0' ≤ c && c ≤ '9' then some (c.toNat - 48)
  else if 'a' ≤ c && c ≤ 'f' then some (c.toNat - 87)
  else if 'A' ≤ c && c ≤ 'F' then some (c.toNat - 55)
  else none

/-- Whether a character may appear in a YAML text: tab, line feed, carriage return, the
printable ASCII characters, next line, and the rest of Unicode but the controls, the
surrogates, and the two noncharacters at the end of the basic plane. -/
def isPrintable (c : Char) : Bool :=
  let n := c.toNat
  n = 0x09 || n = 0x0A || n = 0x0D || (0x20 ≤ n && n ≤ 0x7E) || n = 0x85 ||
    (0xA0 ≤ n && n ≤ 0xD7FF) || (0xE000 ≤ n && n ≤ 0xFFFD) || 0x10000 ≤ n

/-- Whether a character is an indicator, which a plain scalar may not start with, except for
`-`, `?` and `:` followed by a character that is not blank. -/
def isIndicator (c : Char) : Bool :=
  c = '-' || c = '?' || c = ':' || c = ',' || c = '[' || c = ']' || c = '\x7b' || c = '\x7d' ||
    c = '#' || c = '&' || c = '*' || c = '!' || c = '|' || c = '>' || c = '\'' || c = '"' ||
    c = '%' || c = '@' || c = '\x60'

/-- Whether a character is one of the flow indicators `,`, `[`, `]` and the braces. -/
def isFlowIndicator (c : Char) : Bool :=
  c = ',' || c = '[' || c = ']' || c = '\x7b' || c = '\x7d'

/-- A place where a key written without `?` may begin. Such a key is known only when the `:`
after it is met on the same line, within 1024 characters. -/
structure SimpleKey where
  possible : Bool := false
  /-- The place starts a line of a block mapping at its indentation, so a key must follow. -/
  required : Bool := false
  /-- The number of tokens before it, where its key token goes. -/
  tokenNumber : Nat := 0
  mark : Mark := {}
  deriving Repr, Inhabited

/-- The state of a scan. -/
structure Scanner where
  rest : List Char
  mark : Mark := {}
  flowLevel : Nat := 0
  /-- The column of the innermost block collection, `-1` outside all of them. -/
  indent : Int := -1
  /-- The columns of the block collections around the innermost one, the nearest first. -/
  indents : List Int := []
  /-- Whether a key written without `?` may begin here. -/
  keyAllowed : Bool := true
  /-- The possible key of each flow level, the innermost first. -/
  keys : List SimpleKey := [{}]
  tokens : Array Token := #[.streamStart]
  finished : Bool := false
  deriving Repr, Inhabited

/-- A scan step: it changes the state, or fails with the reason the text is refused. -/
abbrev Scan := StateT Scanner (Except String)

namespace Scan

/-- The character `k` places ahead, or `endChar` past the end. -/
def ahead (k : Nat) : Scan Char := do return ((← get).rest[k]?).getD endChar

/-- The column reached. -/
def column : Scan Nat := do return (← get).mark.column

/-- Whether the scan is inside a flow collection. -/
def inFlow : Scan Bool := do return (← get).flowLevel > 0

/-- The number of characters left, which bounds every loop over them. -/
def budget : Scan Nat := do return (← get).rest.length + 1

/-- Passes a character that does not break a line. -/
def skip : Scan Unit := modify fun s =>
  match s.rest with
  | _ :: r => { s with rest := r, mark := { s.mark with index := s.mark.index + 1, column := s.mark.column + 1 } }
  | [] => s

/-- Passes a line break; `\r\n` is one. -/
def skipBreak : Scan Unit := modify fun s =>
  match s.rest with
  | '\r' :: '\n' :: r => { s with rest := r, mark := ⟨s.mark.index + 2, s.mark.line + 1, 0⟩ }
  | c :: r =>
    if isLineBreak c then { s with rest := r, mark := ⟨s.mark.index + 1, s.mark.line + 1, 0⟩ } else s
  | [] => s

/-- Takes a line break as the text it stands for: a line feed for `\r\n`, `\r`, `\n` and next
line, and the line or paragraph separator itself. Nothing when no break comes next. -/
def takeBreak : Scan String := do
  let c ← ahead 0
  if c = '\u2028' || c = '\u2029' then
    skipBreak
    return c.toString
  else if isLineBreak c then
    skipBreak
    return "\n"
  else return ""

/-- Passes the characters that pass a test, up to a line break. -/
def skipWhile (p : Char → Bool) : Scan Unit := do
  let rec go : Nat → Scan Unit
    | 0 => pure ()
    | n + 1 => do
      let c ← ahead 0
      if p c && !isLineEnd c then
        skip
        go n
  go (← budget)

/-- Takes the characters that pass a test, up to a line break. -/
def takeWhile (p : Char → Bool) : Scan String := do
  let rec go : Nat → String → Scan String
    | 0, acc => pure acc
    | n + 1, acc => do
      let c ← ahead 0
      if p c && !isLineEnd c then
        skip
        go n (acc.push c)
      else pure acc
  go (← budget) ""

/-- Whether a document marker, `---` or `...` followed by a separator, starts the line here. -/
def atDocumentMarker : Scan Bool := do
  if (← column) ≠ 0 then return false
  let a ← ahead 0
  let b ← ahead 1
  let c ← ahead 2
  let d ← ahead 3
  return ((a = '-' && b = '-' && c = '-') || (a = '.' && b = '.' && c = '.')) && isSeparator d

/-- Adds a token at the end. -/
def emit (t : Token) : Scan Unit := modify fun s => { s with tokens := s.tokens.push t }

end Scan

end Yaml
end Config
end ResultLint
