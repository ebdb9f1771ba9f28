import ResultLint.Dictionary
import ResultLint.Text.Blank

/-!
# Project properties

A `gradle.properties` file holds `key=value` entries, one per logical line. A physical line that
ends in an odd number of backslashes continues on the next one, whose leading blanks are
dropped. Blank lines and lines starting with `#` or `!` are skipped between entries. A key ends
at the first unescaped `=`, `:` or blank; backslash escapes stand for tab, newline, carriage
return, form feed, a code point written as four hexadecimal digits, or the escaped character
itself. Of two entries with one key the later wins.

Two entries name the annotations a project adds to and removes from the markers; their values
are lists separated by `:`.
-/

namespace ResultLint

/-- Why a properties text cannot be read. -/
inductive PropertiesError where
  | invalidEscape (line : Nat)
  deriving DecidableEq, Repr

/-- The text of a properties error. -/
def PropertiesError.message : PropertiesError → String
  | .invalidEscape line => s!"malformed \\uXXXX escape on line {line}"

/-- The entries of a properties file. -/
structure Properties where
  entries : Dictionary String := {}
  deriving DecidableEq, Repr, Inhabited

namespace Properties

/-- Splits a text into lines at newlines; a line ended by a newline loses one carriage return
before it, and a newline at the very end starts no further line. -/
def splitLines : List Char → List Char → List (List Char)
  | [], current => if current.isEmpty then [] else [current.reverse]
  | c :: rest, current =>
    if c = '\n' then
      let line := current.reverse
      (if line.getLast? = some '\r' then line.dropLast else line) :: splitLines rest []
    else splitLines rest (c :: current)

/-- Whether a line ends in an odd number of backslashes, so that it continues. -/
def continues (line : List Char) : Bool :=
  (line.reverse.takeWhile (· = '\\')).length % 2 = 1

/-- Joins continued lines into logical lines, each with the number of the physical line it
starts on. Blank and comment lines are skipped where no entry is pending. -/
def logicalLines : List (List Char) → Nat → Option (Nat × List Char) → List (Nat × List Char)
  | [], _, pending => pending.toList
  | raw :: rest, number, pending =>
    let line := Text.dropBlanks raw
    let start : Option (Nat × List Char) :=
      match pending with
      | some p => some p
      | none =>
        if line.isEmpty || line.head? = some '#' || line.head? = some '!' then none
        else some (number, [])
    match start with
    | none => logicalLines rest (number + 1) none
    | some (first, text) =>
      if continues line then logicalLines rest (number + 1) (some (first, text ++ line.dropLast))
      else (first, text ++ line) :: logicalLines rest (number + 1) none

/-- Splits a logical line into its raw key and raw value. -/
def splitEntry : List Char → Bool → List Char → List Char × List Char
  | [], _, key => (key.reverse, [])
  | c :: rest, true, key => splitEntry rest false (c :: key)
  | c :: rest, false, key =>
    if c = '\\' then splitEntry rest true (c :: key)
    else if c = '=' ∨ c = ':' then (key.reverse, Text.dropBlanks rest)
    else if Text.isBlank c then
      let value :=
        match Text.dropBlanks rest with
        | '=' :: r => r
        | ':' :: r => r
        | r => r
      (key.reverse, Text.dropBlanks value)
    else splitEntry rest false (c :: key)

/-- The value of a hexadecimal digit. -/
def hexDigit? (c : Char) : Option Nat :=
  if '0' ≤ c ∧ c ≤ '9' then some (c.toNat - '0'.toNat)
  else if 'a' ≤ c ∧ c ≤ 'f' then some (c.toNat - 'a'.toNat + 10)
  else if 'A' ≤ c ∧ c ≤ 'F' then some (c.toNat - 'A'.toNat + 10)
  else none

/-- The code point written by the four characters of a `\u` escape: four hexadecimal digits,
or a plus sign and three; a surrogate is no code point. -/
def codePoint? (a b c d : Char) : Option Char :=
  let digits := if a = '+' then [b, c, d] else [a, b, c, d]
  let value := digits.foldlM (fun acc ch => (hexDigit? ch).map (acc * 16 + ·)) 0
  match value with
  | some n => if 0xD800 ≤ n ∧ n ≤ 0xDFFF then none else some (Char.ofNat n)
  | none => none

/-- Resolves the escapes of a raw key or value; none when a `\u` escape is malformed. -/
def unescape : List Char → Option (List Char)
  | [] => some []
  | '\\' :: 't' :: rest => ('\t' :: ·) <$> unescape rest
  | '\\' :: 'n' :: rest => ('\n' :: ·) <$> unescape rest
  | '\\' :: 'r' :: rest => ('\r' :: ·) <$> unescape rest
  | '\\' :: 'f' :: rest => ('\x0c' :: ·) <$> unescape rest
  | '\\' :: 'u' :: a :: b :: c :: d :: rest =>
    match codePoint? a b c d with
    | some ch => (ch :: ·) <$> unescape rest
    | none => none
  | '\\' :: 'u' :: _ => none
  | '\\' :: c :: rest => (c :: ·) <$> unescape rest
  | ['\\'] => some []
  | c :: rest => (c :: ·) <$> unescape rest

/-- Reads the entries of a properties text. -/
def parse (text : String) : Except PropertiesError Properties :=
  (logicalLines (splitLines text.toList []) 1 none).foldlM
    (fun props (line, logical) =>
      let (key, value) := splitEntry logical false []
      match unescape key, unescape value with
      | some k, some v => .ok ⟨props.entries.insert (String.ofList k) (String.ofList v)⟩
      | _, _ => .error (.invalidEscape line))
    {}

/-- Reads a properties text; a malformed text gives no entries. -/
def parseOrEmpty (text : String) : Properties :=
  match parse text with
  | .ok p => p
  | .error _ => {}

/-- The value of a key. -/
def get? (p : Properties) (key : String) : Option String := p.entries.get? key

/-- The number of keys. -/
def size (p : Properties) : Nat := p.entries.size

/-- Whether there are no entries. -/
def isEmpty (p : Properties) : Bool := p.entries.isEmpty

/-- A value read as a list: split at `:`, items trimmed, empty items dropped. -/
def list? (p : Properties) (key : String) : Option (List String) :=
  (p.get? key).map fun v =>
    ((v.splitOn ":").map Text.trim).filter (!·.isEmpty)

/-- The annotations the project adds to the markers. -/
def customAnnotations (p : Properties) : List String :=
  ((p.list? "configurableCheckReturnValue.customAnnotations").orElse
    fun _ => p.list? "customAnnotations").getD []

/-- The annotations the project removes from the markers. -/
def excludeAnnotations (p : Properties) : List String :=
  ((p.list? "configurableCheckReturnValue.excludeAnnotations").orElse
    fun _ => p.list? "excludeAnnotations").getD []

end Properties

end ResultLint
