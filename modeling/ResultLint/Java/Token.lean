import ResultLint.Source
import ResultLint.Text.Blank
import ResultLint.Text.Letter
import ResultLint.Text.Pattern

/-!
# Java tokens

The scanner cuts a Java source text into words (identifiers and keywords), numbers, character
and string literals, and symbols, each with its byte range. Blanks and comments separate tokens
and are not kept. A `>` is always its own token, so that the closing brackets of nested type
arguments stay apart; the reader joins adjacent ones into shift and comparison operators.
String literals keep their pieces: runs of plain characters and escape sequences.
-/

namespace ResultLint
namespace Java

/-- The shapes of numeric literals. -/
inductive NumberKind where
  | decimalInteger
  | hexInteger
  | octalInteger
  | binaryInteger
  | decimalFloat
  | hexFloat
  deriving DecidableEq, Repr, Inhabited

/-- What a piece of a string literal is. -/
inductive PieceKind where
  /-- A run of plain characters. -/
  | text
  /-- One escape sequence. -/
  | escape
  /-- An embedded expression, from its opening backslash and brace to its closing brace. -/
  | template
  deriving DecidableEq, Repr, Inhabited

/-- A piece of a string literal with its byte range; an embedded expression keeps its text,
between its braces. -/
structure StringPart where
  kind : PieceKind
  start : Nat
  stop : Nat
  inner : String
  deriving DecidableEq, Repr, Inhabited

/-- What a token is. -/
inductive TokenKind where
  | word
  | number (kind : NumberKind)
  | character
  | string (parts : List StringPart) (textBlock : Bool) (closed : Bool)
  | symbol
  | invalid
  deriving DecidableEq, Repr, Inhabited

/-- A token with its text and byte range. -/
structure Token where
  kind : TokenKind
  text : String
  start : Nat
  stop : Nat
  deriving DecidableEq, Repr, Inhabited

/-- The number of bytes of a run of characters. -/
def byteLength (cs : List Char) : Nat := cs.foldl (fun n c => n + utf8Length c) 0

/-- A character that may start an identifier. -/
def isWordStart (c : Char) : Bool := Text.isIdentStart c || c = '_' || c = '$'

/-- A character that may continue an identifier. -/
def isWordPart (c : Char) : Bool := Text.isIdentPart c || c = '$' || c.toNat = 0xA2

/-- The symbols of the language, longest first where one extends another. -/
def symbols : List String :=
  ["<<=", "...", "->", "::", "<<", "<=", "==", "!=", "&&", "||", "++", "--", "+=", "-=", "*=",
   "/=", "%=", "&=", "|=", "^=", "<", "=", "!", "&", "|", "^", "+", "-", "*", "/", "%", ":",
   "?", "~", ".", ",", ";", "(", ")", "[", "]", "\x7b", "\x7d", "@", ">"]

/-- The length of the longest symbol at the front of a text. -/
def symbolLength (cs : List Char) : Nat :=
  match symbols.find? (fun s => s.toList.isPrefixOf cs) with
  | some s => s.length
  | none => 0

/-- The length of a run of characters of a class. -/
def runLength (p : Char → Bool) (cs : List Char) : Nat := (cs.takeWhile p).length

section

open Text.Pattern

/-- The patterns of numeric literals, each with its shape. Digits may be grouped by
underscores; a decimal integer other than `0` may also put one underscore after its first digit
and several between later groups. -/
def numberPatterns : List (NumberKind × Text.Pattern) :=
  let oneOf (s : String) : Text.Pattern := char fun c => s.contains c
  let run (s : String) : Text.Pattern := many1 (oneOf s)
  let decimalRun := run "0123456789"
  let integerDigits := alt (text "0") (seq (oneOf "123456789")
    (opt (seq (opt (text "_")) (sepBy1 decimalRun (many1 (text "_"))))))
  let decimalDigits := sepBy1 decimalRun (text "_")
  let hexDigits := sepBy1 (run "0123456789abcdefABCDEF") (text "_")
  let long := opt (oneOf "lL")
  let floatSuffix := opt (oneOf "fFdD")
  let exponent := seqs [oneOf "eE", opt (oneOf "+-"), decimalDigits]
  let hexStart := alt (text "0x") (text "0X")
  [(.decimalInteger, seq integerDigits long),
   (.hexInteger, seqs [hexStart, hexDigits, long]),
   (.octalInteger, seqs [alt (alt (text "0o") (text "0O")) (text "0"),
     sepBy1 (run "01234567") (text "_"), long]),
   (.binaryInteger, seqs [alt (text "0b") (text "0B"), sepBy1 (run "01") (text "_"), long]),
   (.decimalFloat, alt
     (alt (seqs [decimalDigits, text ".", opt decimalDigits, opt exponent, floatSuffix])
       (seqs [text ".", decimalDigits, opt exponent, floatSuffix]))
     (alt (seqs [integerDigits, oneOf "eEpP", opt (oneOf "+-"), decimalDigits, floatSuffix])
       (seqs [integerDigits, opt exponent, oneOf "fFdD"]))),
   (.hexFloat, seqs [hexStart,
     alt (seq hexDigits (opt (text "."))) (seqs [opt hexDigits, text ".", hexDigits]),
     opt (seqs [oneOf "eEpP", opt (oneOf "+-"), integerDigits, floatSuffix])])]

end

/-- The length and shape of the numeric literal at the front of a text: the longest match of
the patterns of literals, the first shape on a tie. -/
def numberToken (cs : List Char) : Nat × NumberKind :=
  let run := cs.takeWhile fun c => c.isAlphanum || c = '_' || c = '.' || c = '+' || c = '-'
  (Text.longestOf? numberPatterns run.toArray).getD (0, .decimalInteger)

/-- The length of an escape sequence after its backslash: a character, up to three octal
digits, `x` and two hexadecimal digits, or `u` and four. -/
def escapeLength : List Char → Nat
  | [] => 0
  | c :: rest =>
    if '0' ≤ c ∧ c ≤ '7' then 1 + min 2 (runLength (fun d => '0' ≤ d && d ≤ '7') rest)
    else if c = 'u' then 1 + min 4 (runLength (fun d => d = 'u') rest + runLength
      (fun d => d.isDigit || ('a' ≤ d && d ≤ 'f') || ('A' ≤ d && d ≤ 'F')) (rest.dropWhile (· = 'u')))
    else if c = 'x' then 1 + min 2 (runLength
      (fun d => d.isDigit || ('a' ≤ d && d ≤ 'f') || ('A' ≤ d && d ≤ 'F')) rest)
    else 1

/-- The length of a character literal at the front of a text, or zero. -/
def characterLength : List Char → Nat
  | '\'' :: rest =>
    let rec body : List Char → Nat → Nat
      | '\'' :: _, n => if n > 0 then n + 1 else 0
      | '\\' :: _ :: more, n => body more (n + 2)
      | '\n' :: _, _ => 0
      | _ :: more, n => body more (n + 1)
      | [], _ => 0
    let n := body rest 0
    if n = 0 then 0 else n + 1
  | _ => 0

/-- The length of a block comment at the front of a text, or zero when it is not closed. -/
def blockCommentLength (cs : List Char) : Nat :=
  go (cs.drop 2) 2
where
  /-- Looks for the closing star and slash. -/
  go : List Char → Nat → Nat
    | '*' :: '/' :: _, n => n + 2
    | _ :: rest, n => go rest (n + 1)
    | [], _ => 0

/-- The length of a string literal at the front of a text, after its opening quote and up to
its closing one, or to the end of the line when it is not closed. -/
def quotedLength : List Char → Nat
  | '\\' :: c :: rest => if c = '\n' then 1 else 2 + quotedLength rest
  | '"' :: _ => 1
  | '\n' :: _ => 0
  | _ :: rest => 1 + quotedLength rest
  | [] => 0

/-- The number of characters of an embedded expression after its opening brace, up to its
closing brace: braces nest, and strings, characters and comments in it are passed over whole.
None when the brace is never closed. -/
def templateLength (cs : List Char) : Option Nat :=
  go cs 0 0 (cs.length + 1)
where
  /-- Walks the expression at brace depth `depth`, `n` characters in. -/
  go (cs : List Char) (depth n : Nat) : Nat → Option Nat
    | 0 => none
    | fuel + 1 =>
      match cs with
      | [] => none
      | '\x7d' :: rest => if depth = 0 then some n else go rest (depth - 1) (n + 1) fuel
      | '\x7b' :: rest => go rest (depth + 1) (n + 1) fuel
      | '"' :: rest =>
        let k := quotedLength rest
        go (rest.drop k) depth (n + 1 + k) fuel
      | '/' :: '/' :: rest =>
        let k := runLength (· != '\n') rest
        go (rest.drop k) depth (n + 2 + k) fuel
      | '/' :: '*' :: _ =>
        let k := blockCommentLength cs
        if k = 0 then none else go (cs.drop k) depth (n + k) fuel
      | '\'' :: rest =>
        let k := max 1 (characterLength cs)
        if k = 1 then go rest depth (n + 1) fuel else go (cs.drop k) depth (n + k) fuel
      | _ :: rest => go rest depth (n + 1) fuel

/-- The embedded expression that a backslash at byte `pos` opens, given the text after the
backslash: the piece and the number of characters it takes after the backslash. None when no
brace follows or it is never closed. -/
def templatePart (pos : Nat) (cs : List Char) : Option (StringPart × Nat) :=
  match cs with
  | '\x7b' :: rest =>
    (templateLength rest).map fun k =>
      let inner := rest.take k
      ({ kind := .template, start := pos, stop := pos + 2 + byteLength inner + 1,
         inner := String.ofList inner }, k + 2)
  | _ => none

/-- The pieces of a string literal's body, starting at byte `pos`, up to its closing quote.
Returns the pieces, the number of characters read, and whether the literal was closed before
the line ended. -/
def stringBody (cs : List Char) (pos : Nat) : List StringPart × Nat × Bool :=
  go cs pos 0 none [] (cs.length + 1)
where
  /-- Walks the body; `run` is the start of the current plain run. -/
  go (cs : List Char) (pos read : Nat) (run : Option Nat) (parts : List StringPart) :
      Nat → List StringPart × Nat × Bool
    | 0 => (parts.reverse, read, false)
    | fuel + 1 =>
      let flush := match run with
        | some s => if s < pos then { kind := .text, start := s, stop := pos, inner := "" } :: parts
          else parts
        | none => parts
      match cs with
      | [] => (flush.reverse, read, false)
      | '"' :: _ => (flush.reverse, read + 1, true)
      | '\\' :: rest =>
        match templatePart pos rest with
        | some (part, k) => go (rest.drop k) part.stop (read + 1 + k) none (part :: flush) fuel
        | none =>
          let n := escapeLength rest
          let esc : StringPart :=
            { kind := .escape, start := pos, stop := pos + 1 + byteLength (rest.take n), inner := "" }
          go (rest.drop n) esc.stop (read + 1 + n) none (esc :: flush) fuel
      | c :: rest =>
        if c = '\n' then (flush.reverse, read, false)
        else go rest (pos + utf8Length c) (read + 1) (some (run.getD pos)) parts fuel

/-- A character after a backslash in a text block that makes a kept escape sequence; after any
other character the backslash and the character are passed over, as a line ending after a
backslash joins two lines. -/
def keptEscape (c : Char) : Bool :=
  "bfnrtsu\\\"".contains c || c = '\'' || ('0' ≤ c && c ≤ '7')

/-- The length of a run of a text block's body that starts with a quote: the quote, then
characters other than quotes and backslashes, or escaped quotes. -/
def quotedRunLength : List Char → Nat
  | '\\' :: '"' :: rest => 2 + quotedRunLength rest
  | c :: rest => if c = '"' || c = '\\' then 0 else 1 + quotedRunLength rest
  | [] => 0

/-- The pieces of a text block's body, starting at byte `pos`, up to its three closing quotes.
Each piece is read as the longest that fits: a run of characters other than quotes and
backslashes; a quote with what follows it up to the next quote or backslash; or an escape
sequence. Returns the pieces, the number of characters read, and whether the block was
closed. -/
def textBlockBody (cs : List Char) (pos : Nat) : List StringPart × Nat × Bool :=
  go cs pos 0 [] (cs.length + 1)
where
  /-- Walks the body from byte `pos`, `read` characters in. -/
  go (cs : List Char) (pos read : Nat) (parts : List StringPart) :
      Nat → List StringPart × Nat × Bool
    | 0 => (parts.reverse, read, false)
    | fuel + 1 =>
      let piece (kind : PieceKind) (n : Nat) :=
        let stop := pos + byteLength (cs.take n)
        go (cs.drop n) stop (read + n) ({ kind, start := pos, stop, inner := "" } :: parts) fuel
      match cs with
      | [] => (parts.reverse, read, false)
      | '"' :: '"' :: '"' :: _ => (parts.reverse, read + 3, true)
      | '"' :: rest => piece .text (1 + quotedRunLength rest)
      | '\\' :: c :: rest =>
        let hex := (rest.take 2).filter fun d =>
          d.isDigit || ('a' ≤ d && d ≤ 'f') || ('A' ≤ d && d ≤ 'F')
        match templatePart pos (c :: rest) with
        | some (part, k) => go ((c :: rest).drop k) part.stop (read + 1 + k) (part :: parts) fuel
        | none =>
          if keptEscape c then piece .escape (1 + escapeLength (c :: rest))
          else if c = 'x' && hex.length = 2 then piece .escape 4
          else go rest (pos + 1 + utf8Length c) (read + 2) parts fuel
      | '\\' :: [] => piece .escape 1
      | _ => piece .text (runLength (fun c => c != '"' && c != '\\') cs)

/-- Whether a character starts a token. -/
def startsToken (cs : List Char) : Bool :=
  match cs with
  | [] => false
  | c :: rest =>
    isWordStart c || c.isDigit || c = '"' || (c = '\'' && characterLength cs > 0) ||
      (c = '.' && (rest.head?.map Char.isDigit).getD false) || symbolLength cs > 0

/-- The length of a run of characters at the front of a text that start no token, read as one
token, as the lexer passes over them all before it finds a token again. -/
def invalidRun (cs : List Char) : Nat :=
  go cs 0 (cs.length + 1)
where
  /-- Counts characters that start no token. -/
  go (cs : List Char) (n : Nat) : Nat → Nat
    | 0 => n
    | fuel + 1 =>
      match cs with
      | [] => n
      | c :: rest => if n > 0 && (Text.isBlank c || startsToken cs) then n else go rest (n + 1) fuel

/-- One step of the scanner: a token or nothing (blank, comment), and how many characters it
took, at least one. -/
def step (cs : List Char) (pos : Nat) : Option Token × Nat :=
  match cs with
  | [] => (none, 1)
  | c :: rest =>
    if Text.isBlank c then (none, 1)
    else if c = '/' ∧ rest.head? = some '/' then (none, 2 + runLength (· != '\n') rest.tail)
    else if c = '/' ∧ rest.head? = some '*' ∧ blockCommentLength cs > 0 then
      (none, blockCommentLength cs)
    else
      let make (kind : TokenKind) (n : Nat) : Option Token × Nat :=
        let taken := cs.take n
        (some { kind, text := String.ofList taken, start := pos, stop := pos + byteLength taken }, n)
      if isWordStart c then make .word (1 + runLength isWordPart rest)
      else if c.isDigit ∨ (c = '.' ∧ (rest.head?.map Char.isDigit).getD false) then
        let (n, kind) := numberToken cs
        make (.number kind) (max n 1)
      else if c = '"' then
        let textBlock := ['"', '"'].isPrefixOf rest
        let skip := if textBlock then 3 else 1
        let (parts, n, closed) :=
          if textBlock then textBlockBody (cs.drop skip) (pos + skip) else stringBody (cs.drop skip) (pos + skip)
        make (.string parts textBlock closed) (skip + n)
      else if c = '\'' ∧ characterLength cs > 0 then make .character (characterLength cs)
      else
        let n := symbolLength cs
        if n > 0 then make .symbol n else make .invalid (invalidRun cs)

/-- The tokens of a source text. -/
def tokenize (text : String) : Array Token :=
  go text.toList 0 #[]
where
  /-- Scans the rest of the text from byte `pos`. -/
  go (cs : List Char) (pos : Nat) (acc : Array Token) : Array Token :=
    match cs with
    | [] => acc
    | c :: rest =>
      let (tok, n) := step (c :: rest) pos
      let taken := max n 1
      go ((c :: rest).drop taken) (pos + byteLength ((c :: rest).take taken))
        (match tok with
          | some t => acc.push t
          | none => acc)
  termination_by cs.length
  decreasing_by
    simp only [List.length_drop, List.length_cons]
    omega

end Java
end ResultLint
