import ResultLint.Config.Yaml.Token

/-!
# Scalars, anchors, tags and directives

The tokens that carry text. Each reader starts on the token's first character and leaves the
scan on the character after it.

Plain and quoted scalars may run over several lines. Between two runs of text, blanks are kept
when no line break comes between them; a single line break folds to a space; of several line
breaks the first is dropped and the rest kept; a line or paragraph separator is kept as it is.
A double-quoted scalar also takes escapes, and a backslash at the end of a line joins the next
line to it with nothing between.

A block scalar takes the lines indented at least as far as its first line with text; a literal
one keeps their line breaks and a folded one folds a break between two lines that start with
text. Its header may give the indentation and whether the final line breaks are dropped, kept
as one, or all kept.
-/

namespace ResultLint
namespace Config
namespace Yaml

open Scan

/-- The text of a plain or quoted scalar being read, with what stands since its last run of
text: the blanks, or the first line break and the ones after it. -/
structure Folding where
  text : String := ""
  spaces : String := ""
  leadingBreak : String := ""
  trailingBreaks : String := ""
  /-- A line break was met since the last run of text. -/
  broken : Bool := false
  deriving Repr, Inhabited

/-- The text with what stood since its last run joined to it: the blanks, when no line break
came; a single line feed folded to a space; of more line breaks, all but the first. -/
def Folding.join (f : Folding) : Folding :=
  if f.broken then
    let text :=
      if f.leadingBreak == "\n" then
        if f.trailingBreaks.isEmpty then f.text.push ' ' else f.text ++ f.trailingBreaks
      else f.text ++ f.leadingBreak ++ f.trailingBreaks
    { f with text, leadingBreak := "", trailingBreaks := "", broken := false }
  else { f with text := f.text ++ f.spaces, spaces := "" }

/-- Takes the blanks and line breaks after a run of text. Blanks after a line break are
indentation and dropped; a tab there is refused left of `tabLimit`, when one is given. -/
def blanksAndBreaks (tabLimit : Option Int) : Nat → Folding → Scan Folding
  | 0, f => pure f
  | n + 1, f => do
    let c ← ahead 0
    if isBlankChar c then
      if let some limit := tabLimit then
        if f.broken && ((← column) : Int) < limit && c = '\t' then
          throw "found a tab character that violates indentation"
      skip
      blanksAndBreaks tabLimit n (if f.broken then f else { f with spaces := f.spaces.push c })
    else if isLineBreak c then
      let b ← takeBreak
      blanksAndBreaks tabLimit n
        (if f.broken then { f with trailingBreaks := f.trailingBreaks ++ b }
          else { f with spaces := "", leadingBreak := b, broken := true })
    else return f

/-! ## Plain scalars -/

/-- A run of a plain scalar: its characters up to a blank, a line break, `: ` or, in a flow
collection, a flow indicator; `:` before a flow indicator is refused there. Gives the position
after the last character taken. -/
def plainRun : Nat → Folding → Mark → Scan (Folding × Mark)
  | 0, f, m => pure (f, m)
  | n + 1, f, m => do
    let c ← ahead 0
    if isSeparator c then return (f, m)
    let next ← ahead 1
    let flow ← inFlow
    if flow && c = ':' && (isFlowIndicator next || next = '?') then
      throw "found unexpected ':'"
    if (c = ':' && isSeparator next) || (flow && isFlowIndicator c) then return (f, m)
    let f := f.join
    skip
    plainRun n { f with text := f.text.push c } (← get).mark

/-- The lines of a plain scalar. It ends before a comment, a document marker, an indicator
that ends a run, or, outside flow collections, a line indented less than `indent`. -/
def plainLines (indent : Int) : Nat → Folding → Mark → Scan (Folding × Mark)
  | 0, f, m => pure (f, m)
  | n + 1, f, m => do
    if ← atDocumentMarker then return (f, m)
    if (← ahead 0) = '#' then return (f, m)
    let (f, m) ← plainRun (← budget) f m
    let c ← ahead 0
    if !(isBlankChar c || isLineBreak c) then return (f, m)
    let f ← blanksAndBreaks (some indent) (← budget) f
    if !(← inFlow) && ((← column) : Int) < indent then return (f, m)
    plainLines indent n f m

/-- A plain scalar. After one that ran over a line break, a key may begin. -/
def plainScalar : Scan Token := do
  let s ← get
  let (f, _) ← plainLines (s.indent + 1) (← budget) {} s.mark
  if f.broken then modify fun s => { s with keyAllowed := true }
  return .scalar f.text .plain

/-! ## Quoted scalars -/

/-- The character a one-letter escape of a double-quoted scalar stands for. -/
def simpleEscape : Char → Option Char
  | '0' => some '\x00'
  | 'a' => some '\x07'
  | 'b' => some '\x08'
  | 't' | '\t' => some '\t'
  | 'n' => some '\n'
  | 'v' => some '\x0B'
  | 'f' => some '\x0C'
  | 'r' => some '\r'
  | 'e' => some '\x1B'
  | ' ' => some ' '
  | '"' => some '"'
  | '/' => some '/'
  | '\'' => some '\''
  | '\\' => some '\\'
  | 'N' => some '\x85'
  | '_' => some '\xA0'
  | 'L' => some '\u2028'
  | 'P' => some '\u2029'
  | _ => none

/-- The character an escape `\x`, `\u` or `\U` names with `width` hexadecimal digits; the
scan stands on its backslash. -/
def codeEscape (width : Nat) : Scan Char := do
  let digits ← (List.range width).mapM fun k => ahead (k + 2)
  let value ← digits.foldlM (fun acc d => match hexDigit? d with
    | some v => pure (16 * acc + v)
    | none => throw "did not find expected hexdecimal number") 0
  if (0xD800 ≤ value && value ≤ 0xDFFF) || value > 0x10FFFF then
    throw "found invalid Unicode character escape code"
  for _ in List.range (width + 2) do skip
  return Char.ofNat value

/-- A run of a quoted scalar up to a blank, a line break or the closing quote. In a
single-quoted scalar two quotes stand for one; a double-quoted scalar takes escapes, and a
backslash before a line break ends the run as if a line break had been folded away. -/
def quotedRun (single : Bool) : Nat → Folding → Scan Folding
  | 0, f => pure f
  | n + 1, f => do
    let c ← ahead 0
    if isSeparator c then return f
    let next ← ahead 1
    if single && c = '\'' && next = '\'' then
      skip
      skip
      quotedRun single n { f with text := f.text.push '\'' }
    else if c = (if single then '\'' else '"') then return f
    else if !single && c = '\\' && isLineBreak next then
      skip
      skipBreak
      return { f with broken := true }
    else if !single && c = '\\' then
      let e ← match simpleEscape next with
        | some e => do
          skip
          skip
          pure e
        | none =>
          match next with
          | 'x' => codeEscape 2
          | 'u' => codeEscape 4
          | 'U' => codeEscape 8
          | _ => throw "found unknown escape character"
      quotedRun single n { f with text := f.text.push e }
    else
      skip
      quotedRun single n { f with text := f.text.push c }

/-- The lines of a quoted scalar, up to its closing quote. A document marker or the end of
the text inside it is refused. -/
def quotedLines (single : Bool) : Nat → Folding → Scan Folding
  | 0, f => pure f
  | n + 1, f => do
    if ← atDocumentMarker then throw "found unexpected document indicator"
    if (← ahead 0) = endChar then throw "found unexpected end of stream"
    let f ← quotedRun single (← budget) { f with broken := false }
    if (← ahead 0) = (if single then '\'' else '"') then return f
    let f ← blanksAndBreaks none (← budget) f
    quotedLines single n f.join

/-- A single- or double-quoted scalar. -/
def quotedScalar (single : Bool) : Scan Token := do
  skip
  let f ← quotedLines single (← budget) {}
  skip
  return .scalar f.text (if single then .singleQuoted else .doubleQuoted)

/-! ## Block scalars -/

/-- What a block scalar keeps of its final line breaks: none, one, or all. -/
inductive Chomping where
  | strip
  | clip
  | keep
  deriving DecidableEq, Repr, Inhabited

/-- Passes spaces up to the column `indent`, or all of them while it is not known (`0`). -/
def skipIndentation (indent : Int) : Nat → Scan Unit
  | 0 => pure ()
  | n + 1 => do
    if (indent = 0 || ((← column) : Int) < indent) && (← ahead 0) = ' ' then
      skip
      skipIndentation indent n

/-- Passes the indentation and the empty lines before a line of a block scalar, adding their
line breaks to `breaks`. An indentation not yet known (`0`) becomes the widest one passed, at
least one more than that of the block around (`outer`) and at least 1. -/
def blockBreaks (outer : Int) : Nat → Int → Nat → String → Scan (Int × String)
  | 0, indent, _, breaks => pure (indent, breaks)
  | n + 1, indent, widest, breaks => do
    skipIndentation indent (← budget)
    let col ← column
    let widest := max widest col
    if (indent = 0 || (col : Int) < indent) && (← ahead 0) = '\t' then
      throw "found a tab character where an indentation space is expected"
    if !isLineBreak (← ahead 0) then
      return (if indent = 0 then max (max (widest : Int) (outer + 1)) 1 else indent, breaks)
    let b ← takeBreak
    blockBreaks outer n indent widest (breaks ++ b)

/-- The text of a block scalar being read, with the line break after its last line and the
empty lines after that. -/
structure BlockText where
  text : String := ""
  leadingBreak : String := ""
  trailingBreaks : String := ""
  /-- The last line started with a blank. -/
  leadingBlank : Bool := false
  deriving Repr, Inhabited

/-- The lines of a block scalar at the column `indent`. A folded scalar joins two lines by a
space when a single line feed stands between them and neither starts with a blank. -/
def blockLines (literal : Bool) (outer indent : Int) : Nat → BlockText → Scan BlockText
  | 0, b => pure b
  | n + 1, b => do
    let c ← ahead 0
    if ((← column) : Int) ≠ indent || c = endChar then return b
    let text :=
      if !literal && b.leadingBreak == "\n" && !b.leadingBlank && !isBlankChar c then
        if b.trailingBreaks.isEmpty then b.text.push ' ' else b.text
      else b.text ++ b.leadingBreak
    let line ← takeWhile fun _ => true
    let lineBreak ← takeBreak
    let (_, trailing) ← blockBreaks outer (← budget) indent 0 ""
    blockLines literal outer indent n
      { text := text ++ b.trailingBreaks ++ line, leadingBreak := lineBreak,
        trailingBreaks := trailing, leadingBlank := isBlankChar c }

/-- The chomping and indentation of a block scalar's header, in either order. -/
def blockHeader : Scan (Chomping × Nat) := do
  let chompingOf (c : Char) : Chomping := if c = '+' then .keep else .strip
  let c ← ahead 0
  if c = '+' || c = '-' then
    skip
    let d ← ahead 0
    if d.isDigit then
      if d = '0' then throw "found an indentation indicator equal to 0"
      skip
      return (chompingOf c, d.toNat - 48)
    return (chompingOf c, 0)
  else if c.isDigit then
    if c = '0' then throw "found an indentation indicator equal to 0"
    skip
    let d ← ahead 0
    if d = '+' || d = '-' then
      skip
      return (chompingOf d, c.toNat - 48)
    return (.clip, c.toNat - 48)
  else return (.clip, 0)

/-- A block scalar, literal after `|` and folded after `>`. -/
def blockScalar (literal : Bool) : Scan Token := do
  let outer := (← get).indent
  skip
  let (chomping, increment) ← blockHeader
  skipWhile isBlankChar
  if (← ahead 0) = '#' then skipWhile fun _ => true
  if !isLineEnd (← ahead 0) then throw "did not find expected comment or line break"
  if isLineBreak (← ahead 0) then skipBreak
  let indent : Int :=
    if increment = 0 then 0 else if outer ≥ 0 then outer + increment else increment
  let (indent, trailing) ← blockBreaks outer (← budget) indent 0 ""
  let b ← blockLines literal outer indent (← budget) { trailingBreaks := trailing }
  let text := match chomping with
    | .strip => b.text
    | .clip => b.text ++ b.leadingBreak
    | .keep => b.text ++ b.leadingBreak ++ b.trailingBreaks
  return .scalar text (if literal then .literal else .folded)

/-! ## Anchors, aliases and tags -/

/-- The name after `&` or `*`: word characters, then a separator or one of `?:,]%@`, a closing
brace or a backquote. -/
def anchorName : Scan String := do
  skip
  let name ← takeWhile isWordChar
  let c ← ahead 0
  let ends := isSeparator c || c = '?' || c = ':' || c = ',' || c = ']' || c = '\x7d' ||
    c = '%' || c = '@' || c = '\x60'
  if name.isEmpty || !ends then throw "did not find expected alphabetic or numeric character"
  return name

/-- Whether a character may stand in a tag: word characters and the marks of a URI; also `,`,
`[` and `]` in a verbatim tag and in a directive. -/
def isTagChar (wide : Bool) (c : Char) : Bool :=
  isWordChar c || c = ';' || c = '/' || c = '?' || c = ':' || c = '@' || c = '&' || c = '=' ||
    c = '+' || c = '$' || c = '.' || c = '%' || c = '!' || c = '~' || c = '*' || c = '\'' ||
    c = '(' || c = ')' || (wide && (c = ',' || c = '[' || c = ']'))

/-- The bytes an escape `%hh` of a tag and the escapes after it stand for: one UTF-8 sequence,
whose first byte tells its length. -/
def tagEscape : Nat → Nat → ByteArray → Scan ByteArray
  | 0, _, bytes => pure bytes
  | n + 1, width, bytes => do
    let high := hexDigit? (← ahead 1)
    let low := hexDigit? (← ahead 2)
    let octet ← match (← ahead 0) == '%', high, low with
      | true, some h, some l => pure (16 * h + l)
      | _, _, _ => throw "did not find URI escaped octet"
    let width ←
      if width = 0 then
        if octet < 0x80 then pure 1
        else if octet / 32 = 6 then pure 2
        else if octet / 16 = 14 then pure 3
        else if octet / 8 = 30 then pure 4
        else throw "found an incorrect leading UTF-8 octet"
      else if octet / 64 = 2 then pure width
      else throw "found an incorrect trailing UTF-8 octet"
    skip
    skip
    skip
    let bytes := bytes.push octet.toUInt8
    if width = 1 then pure bytes else tagEscape n (width - 1) bytes

/-- Text from its UTF-8 bytes; bytes that are not UTF-8 are read one character each. -/
def textOfBytes (bytes : ByteArray) : String :=
  match String.fromUTF8? bytes with
  | some s => s
  | none => String.ofList (bytes.toList.map fun b => Char.ofNat b.toNat)

/-- The characters of a tag, after `start`, the part of a handle that turned out to belong to
it; an empty tag is refused. -/
def tagText (wide : Bool) (start : String) : Scan String := do
  let rec go : Nat → ByteArray → Nat → Scan (ByteArray × Nat)
    | 0, bytes, count => pure (bytes, count)
    | n + 1, bytes, count => do
      let c ← ahead 0
      if !isTagChar wide c then return (bytes, count)
      if c = '%' then go n (← tagEscape (← budget) 0 bytes) (count + 1)
      else
        skip
        go n (bytes ++ c.toString.toUTF8) (count + 1)
  let (bytes, count) ← go (← budget) ByteArray.empty 0
  if start.length + count = 0 then throw "did not find expected tag URI"
  return String.ofList (start.toList.drop 1) ++ textOfBytes bytes

/-- A tag handle: `!`, then word characters, then `!` if one follows. In a directive a handle
other than `!` must end with `!`. -/
def tagHandle (directive : Bool) : Scan String := do
  if (← ahead 0) ≠ '!' then throw "did not find expected '!'"
  skip
  let word ← takeWhile isWordChar
  if (← ahead 0) = '!' then
    skip
    return "!" ++ word ++ "!"
  if directive && !word.isEmpty then throw "did not find expected '!'"
  return "!" ++ word

/-- A tag: `!<verbatim>`, `!handle!suffix`, `!suffix`, or `!` alone, which is the suffix `!`
with an empty handle. A separator, or a `,` in a flow collection, must follow. -/
def tagToken : Scan Token := do
  let (handle, suffix) ← do
    if (← ahead 1) = '<' then
      skip
      skip
      let suffix ← tagText true ""
      if (← ahead 0) ≠ '>' then throw "did not find the expected '>'"
      skip
      pure ("", suffix)
    else
      let handle ← tagHandle false
      if handle.length > 1 && handle.endsWith "!" then
        pure (handle, ← tagText false "")
      else
        let suffix ← tagText false handle
        pure (if suffix.isEmpty then ("", "!") else ("!", suffix))
  let c ← ahead 0
  if !isSeparator c && !((← inFlow) && c = ',') then
    throw "did not find expected whitespace or line break"
  return .tag handle suffix

/-! ## Directives -/

/-- A number of a version directive: at most nine digits. -/
def versionNumber : Scan Nat := do
  let digits ← takeWhile Char.isDigit
  if digits.length > 9 then throw "found extremely long version number"
  if digits.isEmpty then throw "did not find expected version number"
  return digits.foldl (fun n d => 10 * n + (d.toNat - 48)) 0

/-- A directive after `%`: `YAML` with a version, or `TAG` with a handle and its expansion,
then blanks, a comment and the line break. Any other directive is refused. -/
def directiveToken : Scan Token := do
  skip
  let name ← takeWhile isWordChar
  if name.isEmpty then throw "could not find expected directive name"
  if !isSeparator (← ahead 0) then throw "found unexpected non-alphabetical character"
  let t ←
    if name == "YAML" then do
      skipWhile isBlankChar
      let major ← versionNumber
      if (← ahead 0) ≠ '.' then throw "did not find expected digit or '.' character"
      skip
      let minor ← versionNumber
      pure (Token.versionDirective major minor)
    else if name == "TAG" then do
      skipWhile isBlankChar
      let handle ← tagHandle true
      if !isBlankChar (← ahead 0) then throw "did not find expected whitespace"
      skipWhile isBlankChar
      let expansion ← tagText true ""
      if !isSeparator (← ahead 0) then throw "did not find expected whitespace or line break"
      pure (Token.tagDirective handle expansion)
    else throw "found unknown directive name"
  skipWhile isBlankChar
  if (← ahead 0) = '#' then skipWhile fun _ => true
  if !isLineEnd (← ahead 0) then throw "did not find expected comment or line break"
  if isLineBreak (← ahead 0) then skipBreak
  return t

end Yaml
end Config
end ResultLint
