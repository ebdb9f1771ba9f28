import ResultLint.Source
import ResultLint.Text.Blank
import ResultLint.Text.Letter
import ResultLint.Text.Pattern

/-!
# Kotlin tokens

The scanner cuts a Kotlin source text into words (identifiers and keywords, a name in backticks
included), labels (a name directly followed by `@`), numbers, character literals, symbols and the
pieces of string literals, each with its byte range. Blanks and comments separate tokens and are
not kept; block comments nest.

A string literal is a sequence of tokens: its opening quote, runs of text (escapes included),
templates (`$name`, or `${` followed by the tokens of an expression and a closing brace) and its
closing quote. A closing brace ends a template only when it matches the template's opening one,
so the scanner keeps a stack of the strings and templates it is inside.

Every token records whether a line break, or a blank line, stands in the gap before it after the
gap's last comment: automatic semicolons depend on the one and the end of the imports on the
other.
-/

namespace ResultLint
namespace Kotlin

/-- The shapes of numeric literals. -/
inductive NumberKind where
  | integer
  | hex
  | bin
  | real
  deriving DecidableEq, Repr, Inhabited

/-- What a token is. -/
inductive TokenKind where
  /-- An identifier or keyword. -/
  | word
  /-- A name directly followed by `@`; the text keeps the `@`. -/
  | label
  | number (kind : NumberKind)
  /-- The `u`, `L` or `uL` right after an integer literal. -/
  | numberSuffix
  | character
  /-- A quote read on its own: the opening or closing quote of a character literal that the
  lexer cannot read whole, which the parser then reads piece by piece. -/
  | quote
  /-- A piece of the body of such a character literal: an escape, the `\u` that starts a
  unicode escape, its four hexadecimal digits, or one character. -/
  | characterPart
  /-- The opening quote of a string literal, three quotes for a raw string. -/
  | stringStart
  /-- A run of text inside a string literal. -/
  | stringContent
  /-- A template naming a variable: `$name`. -/
  | templateName
  /-- The `${` opening an expression template. -/
  | templateOpen
  /-- The brace closing an expression template. -/
  | templateClose
  /-- The closing quote of a string literal. -/
  | stringEnd
  | symbol
  | invalid
  deriving DecidableEq, Repr, Inhabited

/-- A token with its text, byte range, whether a line break stands in the gap before it after
the last comment of the gap, whether a blank line does, whether an ASCII digit follows it
directly, and whether it is a piece of a character literal that leaves no node when read: the
body, or an escape other than the `\u` that starts a unicode escape. -/
structure Token where
  kind : TokenKind
  text : String
  start : Nat
  stop : Nat
  lineBreak : Bool
  blankLine : Bool := false
  digitAfter : Bool := false
  silent : Bool := false
  deriving DecidableEq, Repr, Inhabited

/-- The number of bytes of a run of characters. -/
def byteLength (cs : List Char) : Nat := cs.foldl (fun n c => n + utf8Length c) 0

/-- The blocks of letters that the character database lists as one entry for the whole
range, such as the ideographs and the Hangul syllables. The lexer's letters are read entry by
entry, so of these only the two ends are letters. -/
def listedRanges : List (Nat × Nat) :=
  [(0x3400, 0x4DBF), (0x4E00, 0x9FFF), (0xAC00, 0xD7A3), (0x17000, 0x187F7), (0x18D00, 0x18D08),
   (0x20000, 0x2A6DF), (0x2A700, 0x2B738), (0x2B740, 0x2B81D), (0x2B820, 0x2CEA1),
   (0x2CEB0, 0x2EBE0), (0x30000, 0x3134A)]

/-- The last code point the lexer's letters and digits reach. -/
def lastNameCode : Nat := 0x1092B

/-- Whether a code point counts for names at all: at most `lastNameCode`, and not inside a
range that the database lists by its ends. -/
def countsForNames (c : Char) : Bool :=
  c.toNat ≤ lastNameCode && !listedRanges.any fun (a, b) => a < c.toNat && c.toNat < b

/-- A character that may start a name: a letter or an underscore. -/
def isNameStart (c : Char) : Bool := (Text.isLetter c && countsForNames c) || c = '_'

/-- A character that may continue a name: a letter, a decimal digit or an underscore. -/
def isNamePart (c : Char) : Bool :=
  ((Text.isLetter c || Text.isDecimalDigit c) && countsForNames c) || c = '_'

/-- The symbols of the language, longest first where one extends another. -/
def symbols : List String :=
  ["===", "!==", "..<", "?.", "?:", "::", "..", "->", "==", "!=", "<=", ">=", "&&", "||", "++",
   "--", "+=", "-=", "*=", "/=", "%=", "!!", "=", "+", "-", "*", "/", "%", "<", ">", "!", "?",
   ":", ".", ",", ";", "(", ")", "[", "]", "\x7b", "\x7d", "@", "&", "|", "#"]

/-- The length of the longest symbol at the front of a text. -/
def symbolLength (cs : List Char) : Nat :=
  match symbols.find? (fun s => s.toList.isPrefixOf cs) with
  | some s => s.length
  | none => 0

/-- The length of a run of characters of a class. -/
def runLength (p : Char → Bool) (cs : List Char) : Nat := (cs.takeWhile p).length

/-- The length of a nested block comment at the front of a text; an unclosed one runs to the
end. -/
def blockCommentLength (cs : List Char) : Nat :=
  go (cs.drop 2) 2 0
where
  /-- Looks for the closing star and slash at nesting `depth`. -/
  go : List Char → Nat → Nat → Nat
    | '*' :: '/' :: rest, n, depth =>
      if depth = 0 then n + 2 else go rest (n + 2) (depth - 1)
    | '/' :: '*' :: rest, n, depth => go rest (n + 2) (depth + 1)
    | _ :: rest, n, depth => go rest (n + 1) depth
    | [], n, _ => n

/-- The gap before a token: how many characters of blanks and comments it holds, whether a line
break stands in it after its last comment, and whether two line feeds do, that is a blank line. -/
structure Gap where
  length : Nat
  lineBreak : Bool
  blankLine : Bool

/-- The gap before the next token. A comment is read as a token of its own that the grammar lets
stand anywhere, so whether a statement ends is decided again after each comment, on the blanks
that follow it. A line comment ends at a line break, so the break after one counts. -/
def gap (cs : List Char) : Gap :=
  skip cs 0 false 0 (cs.length + 1)
where
  /-- Skips blanks and comments, counting the line feeds after the last comment. -/
  skip (cs : List Char) (n : Nat) (lineBreak : Bool) (feeds : Nat) : Nat → Gap
    | 0 => ⟨n, lineBreak, 2 ≤ feeds⟩
    | fuel + 1 =>
      match cs with
      | '/' :: '/' :: rest =>
        let k := 2 + runLength (fun c => c ≠ '\n' && c ≠ '\r') rest
        skip (cs.drop k) (n + k) false 0 fuel
      | '/' :: '*' :: _ =>
        let k := blockCommentLength cs
        skip (cs.drop k) (n + k) false 0 fuel
      | c :: rest =>
        if Text.isBlank c || c.toNat = 0xFEFF then
          skip rest (n + 1) (lineBreak || c = '\n' || c = '\r') (if c = '\n' then feeds + 1 else feeds)
            fuel
        else ⟨n, lineBreak, 2 ≤ feeds⟩
      | [] => ⟨n, lineBreak, 2 ≤ feeds⟩

section

open Text.Pattern

/-- The patterns of numeric literals, each with its shape. Decimal and hexadecimal digits come
in groups separated by underscores; binary digits come one to a group. -/
def numberPatterns : List (NumberKind × Text.Pattern) :=
  let oneOf (s : String) : Text.Pattern := char fun c => s.contains c
  let underscores := many1 (text "_")
  let decimalDigits := sepBy1 (many1 (oneOf "0123456789")) underscores
  let exponent := seqs [oneOf "eE", opt (oneOf "+-"), decimalDigits]
  [(.integer, seq (opt (oneOf "123456789")) decimalDigits),
   (.hex, seqs [text "0", oneOf "xX", sepBy1 (many1 (oneOf "0123456789abcdefABCDEF")) underscores]),
   (.bin, seqs [text "0", oneOf "bB", sepBy1 (oneOf "01") underscores]),
   (.real, alt
     (seq (alt (seq decimalDigits exponent) (seqs [opt decimalDigits, text ".", decimalDigits, opt exponent]))
       (opt (oneOf "fF")))
     (seq decimalDigits (oneOf "fF")))]

end

/-- The length of a numeric literal at the front of a text, its shape, and the length of the
integer suffix (`u`, `L`, `uL`) that follows an integer. The literal is the longest match of the
patterns of literals. -/
def numberToken (cs : List Char) : Nat × NumberKind × Nat :=
  let run := cs.takeWhile fun c => c.isAlphanum || c = '_' || c = '.' || c = '+' || c = '-'
  let (n, kind) := (Text.longestOf? numberPatterns run.toArray).getD (0, .integer)
  let suffix :=
    if kind == .real then 0
    else
      match cs.drop n with
      | u :: 'L' :: _ => if u = 'u' ∨ u = 'U' then 2 else 0
      | u :: _ => if u = 'u' ∨ u = 'U' ∨ u = 'L' then 1 else 0
      | [] => 0
  (n, kind, suffix)

/-- Whether a character is a hexadecimal digit. -/
def isHexDigit (d : Char) : Bool := d.isDigit || ('a' ≤ d && d ≤ 'f') || ('A' ≤ d && d ≤ 'F')

/-- The length of an escape sequence at the front of a text that starts with a backslash. -/
def escapeLength : List Char → Nat
  | '\\' :: 'u' :: rest => 2 + min 4 (runLength isHexDigit rest)
  | '\\' :: _ :: _ => 2
  | _ => 1

/-- Whether a character is a line break, which the lexer passes over inside a character literal
before its body, as no body can be one. -/
def isLineBreak (c : Char) : Bool := c = '\n' || c = '\r'

/-- The length of an escape a character literal may hold: a backslash and `u` with four
hexadecimal digits, or a backslash and one of `t b r n ' " \ $`. -/
def characterEscapeLength : List Char → Option Nat
  | '\\' :: 'u' :: rest =>
    if (rest.take 4).length = 4 && (rest.take 4).all isHexDigit then some 6 else none
  | '\\' :: c :: _ => if "tbrn'\"\\$".toList.contains c then some 2 else none
  | _ => none

/-- A character literal at the front of a text, as the lexer reads it: its length, if one
starts there. After the opening quote line breaks are passed over; the body is an escape or one
character other than a quote, a backslash or a line break, and blanks may stand before the
closing quote. A closing quote where the body should be ends the literal without a body, which
the parser supplies as a missing escape; but where another quote follows that one directly, no
literal is read here, and the quotes are read piece by piece (`characterPiece`) for the parser to
recover from. -/
def characterLength : List Char → Option Nat
  | '\'' :: rest =>
    let breaks := runLength isLineBreak rest
    let body := rest.drop breaks
    let closed (k : Nat) : Option Nat :=
      let after := body.drop k
      let blanks := runLength Text.isBlank after
      if (after.drop blanks).head? = some '\'' then some (1 + breaks + k + blanks + 1) else none
    match body with
    | '\'' :: more => if more.head? = some '\'' then none else some (breaks + 2)
    | '\\' :: _ => (characterEscapeLength body).bind closed
    | _ :: _ => closed 1
    | [] => none
  | _ => none

/-- What the lexer reads next inside a character literal that it reads piece by piece: the
body, the four digits of a unicode escape, or the closing quote. -/
inductive CharacterStage where
  | body
  | digits
  | close
  deriving DecidableEq, Repr, Inhabited

/-- Where the scanner is: inside an expression template, with the depth of braces opened in
it, inside a string literal, or inside a character literal read piece by piece. -/
inductive Frame where
  | template (depth : Nat)
  | text (raw : Bool)
  | character (stage : CharacterStage)
  deriving DecidableEq, Repr, Inhabited

/-- The length of a run of string text at the front of `cs`: up to a closing quote, a dollar
sign, or the end; escapes count as text, except in raw strings where a backslash is plain. -/
def textLength (raw : Bool) (cs : List Char) : Nat :=
  go cs 0 (cs.length + 1)
where
  /-- Counts characters of text. -/
  go (cs : List Char) (n : Nat) : Nat → Nat
    | 0 => n
    | fuel + 1 =>
      match cs with
      | [] => n
      | '"' :: rest =>
        if !raw then n
        else if ['"', '"'].isPrefixOf rest then n
        else go rest (n + 1) fuel
      | '$' :: _ => n
      | '\\' :: rest =>
        if raw then go rest (n + 1) fuel
        else
          let k := escapeLength cs
          go (cs.drop k) (n + k) fuel
      | _ :: rest => go rest (n + 1) fuel

/-- One step of the scanner inside a string literal: the token at the front and its length. A
dollar sign starts a template before an opening brace or an ASCII letter, and is text of its
own otherwise: the name of the template may go on with any name character. -/
def textStep (raw : Bool) (cs : List Char) : TokenKind × Nat :=
  match cs with
  | '"' :: rest =>
    if !raw then (.stringEnd, 1)
    else if ['"', '"'].isPrefixOf rest then
      -- the last three of a run of quotes close a raw string
      let quotes := 1 + runLength (· = '"') rest
      if quotes > 3 then (.stringContent, quotes - 3) else (.stringEnd, 3)
    else (.stringContent, 1 + textLength raw rest)
  | '$' :: '\x7b' :: _ => (.templateOpen, 2)
  | '$' :: c :: rest =>
    -- only an ASCII letter after the dollar starts a template name
    if c.isAlpha then (.templateName, 2 + runLength isNamePart rest)
    else (.stringContent, 1)
  | _ => (.stringContent, max 1 (textLength raw cs))

/-- One step of the scanner in code: the token at the front and its length, at least one. -/
def codeStep (cs : List Char) : TokenKind × Nat :=
  match cs with
  | [] => (.invalid, 1)
  | c :: rest =>
    if isNameStart c then
      let n := 1 + runLength isNamePart rest
      if (cs.drop n).head? = some '@' then (.label, n + 1) else (.word, n)
    else if c.toNat = 96 then
      -- a name in backticks
      let n := runLength (fun d => d.toNat ≠ 96 && d ≠ '\n' && d ≠ '\r') rest
      if (rest.drop n).head? = some (Char.ofNat 96) then (.word, n + 2) else (.invalid, 1)
    else if c.isDigit ∨ (c = '.' ∧ (rest.head?.map Char.isDigit).getD false) then
      let (n, kind, _) := numberToken cs
      (.number kind, max n 1)
    else if c = '"' then
      if ['"', '"'].isPrefixOf rest then (.stringStart, 3) else (.stringStart, 1)
    else if c = '\'' then
      match characterLength cs with
      | some n => (.character, n)
      | none => (.quote, 1)
    else
      let n := symbolLength cs
      if n > 0 then (.symbol, n) else (.invalid, 1)

/-- The length of a run of characters at the front of a text that start no token, read as one
token, as the lexer passes over them all before it finds a token again. -/
def invalidRun (cs : List Char) : Nat :=
  go cs 0 (cs.length + 1)
where
  /-- Counts characters that start no token. -/
  go (cs : List Char) (n : Nat) : Nat → Nat
    | 0 => n
    | fuel + 1 =>
      match cs with
      | [] => n
      | c :: rest =>
        if n > 0 && (Text.isBlank c || (codeStep cs).1 != .invalid) then n
        else go rest (n + 1) fuel

/-- The next piece of a character literal read piece by piece, at `stage`: the number of
characters passed over before it, its kind and length, and the stage after it, none once the
literal is left. None when no piece can stand there, and the lexer reads on as in code.

The body comes after any line breaks. It is an escape, the `\u` of a unicode escape, or one
character other than a backslash; a character that is a token of one character in code is given
as that token, so that what follows a quote reads the same whether or not the quote opened a
literal. A quote where the body should be is a quote of its own. The closing quote may come
after blanks and comments. -/
def characterPiece (stage : CharacterStage) (cs : List Char) :
    Option (Nat × TokenKind × Nat × Option CharacterStage) :=
  match stage with
  | .body =>
    let breaks := runLength isLineBreak cs
    match cs.drop breaks with
    | '\\' :: 'u' :: _ => some (breaks, .characterPart, 2, some .digits)
    | '\\' :: c :: _ =>
      if "tbrn'\"\\$".toList.contains c then some (breaks, .characterPart, 2, some .close) else none
    | '\\' :: _ => none
    | '\'' :: _ => some (breaks, .quote, 1, none)
    | c :: rest =>
      let (kind, n) := codeStep (c :: rest)
      let single : Bool := n == 1 && match kind with
        | .symbol | .word | .number _ => true
        | _ => false
      if Text.isBlank c || !single then some (breaks, .characterPart, 1, some .close)
      else some (breaks, kind, 1, some .close)
    | [] => none
  | .digits =>
    if (cs.take 4).length = 4 && (cs.take 4).all isHexDigit then some (0, .characterPart, 4, some .close)
    else none
  | .close =>
    let g := gap cs
    if (cs.drop g.length).head? = some '\'' then some (g.length, .quote, 1, none) else none

/-- The state of the scanner: the text left, its byte position, the strings and templates it
is inside (innermost first), and the tokens so far. -/
structure Scan where
  cs : List Char
  pos : Nat
  frames : List Frame
  acc : Array Token

/-- Adds a token of `n` characters at the front of the text. -/
def Scan.emit (s : Scan) (kind : TokenKind) (n : Nat) (lineBreak : Bool)
    (frames : List Frame) (blankLine : Bool) : Scan :=
  let taken := s.cs.take n
  let stop := s.pos + byteLength taken
  let digitAfter := ((s.cs.drop n).head?.map Char.isDigit).getD false
  { cs := s.cs.drop n, pos := stop, frames,
    acc := s.acc.push
      { kind, text := String.ofList taken, start := s.pos, stop, lineBreak, blankLine, digitAfter } }

/-- Words that cannot end an operand: the keywords that begin or join something. -/
def joiningWords : List String :=
  ["as", "break", "class", "continue", "do", "else", "for", "fun", "if", "in", "interface", "is",
   "object", "package", "return", "throw", "try", "typealias", "typeof", "val", "var", "when",
   "while"]

/-- Whether a token can end an operand. Right after such a token, on its line, only a binary
operator can come, so a `!` there followed by `in` or `is` is read as the operator `!in` or
`!is`, whatever letters follow: `x !ismine` is `x !is mine`. -/
def endsOperand (t : Token) : Bool :=
  match t.kind with
  | .word => !joiningWords.contains t.text
  | .number _ | .numberSuffix | .character | .stringEnd => true
  | .symbol => [")", "]", "!!", "++", "--"].contains t.text
  | _ => false

/-- The length of a negated check operator, `!in` or `!is`, at the front of a text, or zero. -/
def negatedCheckLength : List Char → Nat
  | '!' :: 'i' :: c :: _ => if c = 'n' || c = 's' then 3 else 0
  | _ => 0

/-- A safe call written with blanks or comments between its question mark and its dot, as in
`a? .b()`: the length of the question mark and the gap, if a dot follows them. The token that
results covers only the dot, as the blanks before it are skipped. -/
def spacedSafeCall (cs : List Char) : Option Nat :=
  match cs with
  | '?' :: rest =>
    let g := gap rest
    if g.length > 0 && (rest.drop g.length).head? = some '.' then some (1 + g.length) else none
  | _ => none

/-- One step of the scanner in code: the layout before the next token, and the token. -/
def Scan.codeToken (s : Scan) : Scan :=
  let g := gap s.cs
  let lineBreak := g.lineBreak
  let s := { s with cs := s.cs.drop g.length, pos := s.pos + byteLength (s.cs.take g.length) }
  if s.cs.isEmpty then s
  else
    let (kind, n) := codeStep s.cs
    let n := if kind == .invalid then invalidRun s.cs else n
    match kind, s.frames with
    | .number _, _ =>
      let (_, _, suffix) := numberToken s.cs
      let s := s.emit kind n lineBreak s.frames g.blankLine
      if suffix > 0 then s.emit .numberSuffix suffix false s.frames false else s
    | .stringStart, _ => s.emit kind n lineBreak (.text (n = 3) :: s.frames) g.blankLine
    | .quote, _ => s.emit kind n lineBreak (.character .body :: s.frames) g.blankLine
    | .symbol, .template depth :: outer =>
      if s.cs.head? = some '\x7b' then
        s.emit kind n lineBreak (.template (depth + 1) :: outer) g.blankLine
      else if s.cs.head? = some '\x7d' then
        if depth = 0 then s.emit .templateClose n lineBreak outer g.blankLine
        else s.emit kind n lineBreak (.template (depth - 1) :: outer) g.blankLine
      else s.emit kind n lineBreak s.frames g.blankLine
    | .symbol, _ =>
      let afterOperand := !lineBreak && (s.acc.back?.map endsOperand).getD false
      if n = 1 && afterOperand && negatedCheckLength s.cs > 0 then
        s.emit kind (negatedCheckLength s.cs) lineBreak s.frames g.blankLine
      else
        match if n = 1 then spacedSafeCall s.cs else none with
        | some k =>
          let dot := s.pos + byteLength (s.cs.take k)
          { s with cs := s.cs.drop (k + 1), pos := dot + 1,
                   acc := s.acc.push { kind, text := "?.", start := dot, stop := dot + 1,
                                       lineBreak, blankLine := g.blankLine } }
        | none => s.emit kind n lineBreak s.frames g.blankLine
    | _, _ => s.emit kind n lineBreak s.frames g.blankLine

/-- One step of the scanner. -/
def Scan.step (s : Scan) : Scan :=
  match s.frames with
  | .text raw :: outer =>
    let (kind, n) := textStep raw s.cs
    let frames :=
      match kind with
      | .stringEnd => outer
      | .templateOpen => .template 0 :: s.frames
      | _ => s.frames
    s.emit kind n false frames false
  | .character stage :: outer =>
    match characterPiece stage s.cs with
    | some (skip, kind, n, next) =>
      let s := { s with cs := s.cs.drop skip, pos := s.pos + byteLength (s.cs.take skip) }
      let frames := match next with
        | some st => .character st :: outer
        | none => outer
      let s := s.emit kind n false frames false
      match s.acc.back? with
      | some t =>
        if t.kind == .quote || t.text == "\\u" then s
        else { s with acc := s.acc.set! (s.acc.size - 1) { t with silent := true } }
      | none => s
    | none => { s with frames := outer }.codeToken
  | _ => s.codeToken

/-- The tokens of a source text. -/
def tokenize (text : String) : Array Token :=
  go { cs := text.toList, pos := 0, frames := [], acc := #[] } (text.length + 1)
where
  /-- Steps until the text is used up; every step takes at least one character. -/
  go (s : Scan) : Nat → Array Token
    | 0 => s.acc
    | fuel + 1 => if s.cs.isEmpty then s.acc else go s.step fuel

end Kotlin
end ResultLint
