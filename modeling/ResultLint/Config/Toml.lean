import ResultLint.Config.Value

/-!
# TOML configuration documents

Reads the TOML a configuration file is written in into a document value: key/value pairs with
bare, quoted and dotted keys, `[table]` and `[[array of tables]]` headers, basic, literal and
multi-line strings, integers, floats, booleans, date-times, arrays and inline tables.

A document defines every key once. A table is defined once, by a header or by dotted keys, and
a header may not reopen a table that dotted keys created; an inline table is complete as
written. Each pair and header ends its line. A text that breaks one of these rules, or is not
TOML at all, is refused with a short reason.

A date-time must name a day of the calendar and a time of day; it reads as a map with one
private key, so that it is a text to no field. A float is the nearest double, and one too large
for a double is refused.
-/

namespace ResultLint
namespace Config
namespace Toml

/-- How a table came to be: named by a header, created on the way to a deeper header, or
created by a dotted key. -/
inductive Origin where
  | header
  | implicit
  | dotted
  deriving DecidableEq, Repr, Inhabited

/-- A node of a document being read: a value written in place, a table, or an array of tables
(the last one being the one later pairs go to). -/
inductive Node where
  | leaf (v : Value)
  | table (entries : List (String × Node)) (origin : Origin)
  | array (items : List (List (String × Node)))
  deriving Inhabited

/-- Reading: a result, or the reason the text is refused. -/
abbrev Reading := Except String

mutual

/-- The value of a node. -/
def Node.value : Node → Value
  | .leaf v => v
  | .table entries _ => .map (entriesValue entries)
  | .array items => .seq (itemsValue items)

/-- The values of a table's entries. -/
def entriesValue : List (String × Node) → List (Value × Value)
  | [] => []
  | (k, n) :: rest => (.str k, n.value) :: entriesValue rest

/-- The values of the tables of an array. -/
def itemsValue : List (List (String × Node)) → List Value
  | [] => []
  | es :: rest => .map (entriesValue es) :: itemsValue rest

end

/-- Changes the entry `key` of a table, or adds it at the end. -/
def updateEntry (entries : List (String × Node)) (key : String)
    (f : Option Node → Reading Node) : Reading (List (String × Node)) := do
  match entries.find? (·.1 == key) with
  | some (_, n) =>
    let n' ← f (some n)
    return entries.map fun e => if e.1 == key then (key, n') else e
  | none =>
    let n' ← f none
    return entries ++ [(key, n')]

/-- Changes the table at a path below a table; an array of tables on the way stands for its
last table. -/
def atPath (entries : List (String × Node)) :
    List String → (List (String × Node) → Reading (List (String × Node))) →
    Reading (List (String × Node))
  | [], g => g entries
  | k :: rest, g =>
    updateEntry entries k fun
      | some (.table es o) => do return .table (← atPath es rest g) o
      | some (.array items) =>
        match items.getLast? with
        | some last => do return .array (items.dropLast ++ [← atPath last rest g])
        | none => throw "an empty array of tables"
      | _ => throw "a key is not a table"

/-- Defines the table or array-of-tables element that a header names. -/
def defineHeader (entries : List (String × Node)) (arrayOfTables : Bool) :
    List String → Reading (List (String × Node))
  | [] => throw "an empty header"
  | [k] =>
    updateEntry entries k fun
      | none => pure (if arrayOfTables then .array [[]] else .table [] .header)
      | some (.table es .implicit) =>
        if arrayOfTables then throw "a table is redefined as an array"
        else pure (.table es .header)
      | some (.array items) =>
        if arrayOfTables then pure (.array (items ++ [[]]))
        else throw "an array of tables is redefined as a table"
      | some _ => throw "a table is defined twice"
  | k :: rest =>
    updateEntry entries k fun
      | none => do return .table (← defineHeader [] arrayOfTables rest) .implicit
      | some (.table es o) => do return .table (← defineHeader es arrayOfTables rest) o
      | some (.array items) =>
        match items.getLast? with
        | some last => do return .array (items.dropLast ++ [← defineHeader last arrayOfTables rest])
        | none => throw "an empty array of tables"
      | some (.leaf _) => throw "a key is not a table"

/-- Assigns a value to a dotted key in a table; the tables on the way are created, or must
have been created by dotted keys. -/
def assign (entries : List (String × Node)) (v : Value) :
    List String → Reading (List (String × Node))
  | [] => throw "an empty key"
  | [k] =>
    updateEntry entries k fun
      | none => pure (.leaf v)
      | some _ => throw s!"duplicate key `{k}`"
  | k :: rest =>
    updateEntry entries k fun
      | none => do return .table (← assign [] v rest) .dotted
      | some (.table es .dotted) => do return .table (← assign es v rest) .dotted
      | some _ => throw s!"duplicate key `{k}`"

/-- Reading characters: the state is the text left. -/
abbrev Scan := StateT (List Char) (Except String)

namespace Scan

variable {α : Type}

/-- The next character. -/
def peek : Scan (Option Char) := do return (← get).head?

/-- Takes the next character. -/
def next : Scan Char := do
  match ← get with
  | c :: rest => set rest; return c
  | [] => throw "unexpected end of the document"

/-- Takes a character that must come next. -/
def expect (c : Char) : Scan Unit := do
  if (← next) ≠ c then throw s!"`{c}` was expected"

/-- Takes blanks. -/
def skipBlanks : Scan Unit := modify fun cs => cs.dropWhile fun c => c = ' ' || c = '\t'

/-- Whether the text left starts with `p`. -/
def startsWith (p : List Char) : Scan Bool := do return p.isPrefixOf (← get)

/-- Takes a comment up to its line break; it may not hold control characters. -/
def skipComment : Scan Unit := do
  if (← peek) = some '#' then
    let cs ← get
    let body := cs.takeWhile fun c => c ≠ '\n'
    let body := if body.getLast? = some '\r' then body.dropLast else body
    if body.any fun c => (c.toNat < 32 && c ≠ '\t') || c.toNat = 127 then
      throw "a control character in a comment"
    set (cs.drop body.length)

/-- Takes a line break. -/
def lineBreak : Scan Bool := do
  if ← startsWith ['\n'] then discard next; return true
  else if ← startsWith ['\r', '\n'] then discard next; discard next; return true
  else return false

/-- Ends a line: blanks, a comment, then a line break or the end of the text. -/
def endLine : Scan Unit := do
  skipBlanks
  skipComment
  if (← get).isEmpty then return
  if !(← lineBreak) then throw "a line holds more than one pair or header"

/-- Takes blanks, comments and line breaks, as inside an array. -/
def skipLayout : Nat → Scan Unit
  | 0 => pure ()
  | fuel + 1 => do
    skipBlanks
    skipComment
    if ← lineBreak then skipLayout fuel

end Scan

open Scan

/-- Whether a character may stand in a bare key. -/
def isBareKeyChar (c : Char) : Bool :=
  c.isAlphanum && c.toNat < 128 || c = '_' || c = '-'

/-- The value of a hexadecimal digit. -/
def hexDigit? (c : Char) : Option Nat :=
  if c.isDigit then some (c.toNat - 48)
  else if 'a' ≤ c && c ≤ 'f' then some (c.toNat - 87)
  else if 'A' ≤ c && c ≤ 'F' then some (c.toNat - 55)
  else none

/-- The character a `\u` or `\U` escape names with `width` hexadecimal digits. -/
def unicodeEscape (width : Nat) : Scan Char := do
  let cs ← get
  let digits := cs.take width
  if digits.length < width then throw "a short unicode escape"
  let n ← match digits.foldl (fun acc d => do pure (16 * (← acc) + (← hexDigit? d))) (some 0) with
    | some n => pure n
    | none => throw "a bad unicode escape"
  if n > 0x10FFFF || (0xD800 ≤ n && n ≤ 0xDFFF) then throw "a unicode escape names no character"
  set (cs.drop width)
  return Char.ofNat n

/-- One escape of a basic string, after its backslash. -/
def escape : Scan Char := do
  match ← next with
  | 'b' => return Char.ofNat 8
  | 't' => return '\t'
  | 'n' => return '\n'
  | 'f' => return Char.ofNat 12
  | 'r' => return '\r'
  | '"' => return '"'
  | '\\' => return '\\'
  | 'u' => unicodeEscape 4
  | 'U' => unicodeEscape 8
  | _ => throw "an unknown escape"

/-- Whether a character may not stand in a string as it is. -/
def isControl (c : Char) : Bool := (c.toNat < 32 && c ≠ '\t') || c.toNat = 127

/-- The rest of a basic string after its opening quote. -/
def basicString : Nat → List Char → Scan String
  | 0, _ => throw "a string is not closed"
  | fuel + 1, acc => do
    match ← next with
    | '"' => return String.ofList acc.reverse
    | '\\' => basicString fuel ((← escape) :: acc)
    | c => if isControl c then throw "a control character in a string" else basicString fuel (c :: acc)

/-- The rest of a literal string after its opening quote. -/
def literalString : Nat → List Char → Scan String
  | 0, _ => throw "a string is not closed"
  | fuel + 1, acc => do
    match ← next with
    | '\'' => return String.ofList acc.reverse
    | c => if isControl c then throw "a control character in a string" else literalString fuel (c :: acc)

/-- The rest of a multi-line string after its opening quotes, closed by three `quote`s; up to
two more quotes before them belong to the text. Basic ones (`"`) take escapes, and a backslash
at the end of a line drops the line break and the blanks after it. -/
def multiLineString (quote : Char) : Nat → List Char → Scan String
  | 0, _ => throw "a string is not closed"
  | fuel + 1, acc => do
    if ← startsWith [quote, quote, quote] then
      let extra := ((← get).takeWhile (· = quote)).length - 3
      if extra > 2 then throw "too many quotes close a string"
      modify (·.drop (3 + extra))
      return String.ofList (acc.reverse ++ List.replicate extra quote)
    if ← startsWith ['\r', '\n'] then
      modify (·.drop 2)
      return ← multiLineString quote fuel ('\n' :: acc)
    match ← next with
    | '\\' =>
      if quote = '\'' then multiLineString quote fuel ('\\' :: acc)
      else
        let cs ← get
        let blanks := cs.takeWhile fun c => c = ' ' || c = '\t'
        match cs.drop blanks.length with
        | '\n' :: _ | '\r' :: '\n' :: _ =>
          set (cs.dropWhile fun c => c = ' ' || c = '\t' || c = '\n' || c = '\r')
          multiLineString quote fuel acc
        | _ => multiLineString quote fuel ((← escape) :: acc)
    | c =>
      if c ≠ '\n' && isControl c then throw "a control character in a string"
      else multiLineString quote fuel (c :: acc)

/-- A quoted or bare key. -/
def simpleKey : Scan String := do
  let fuel := (← get).length + 1
  match ← peek with
  | some '"' => discard next; basicString fuel []
  | some '\'' => discard next; literalString fuel []
  | _ =>
    let cs ← get
    let key := cs.takeWhile isBareKeyChar
    if key.isEmpty then throw "a key was expected"
    set (cs.drop key.length)
    return String.ofList key

/-- A dotted key: keys separated by dots, with blanks around the dots. -/
def dottedKey : Nat → List String → Scan (List String)
  | 0, _ => throw "a key is too long"
  | fuel + 1, acc => do
    skipBlanks
    let k ← simpleKey
    skipBlanks
    if (← peek) = some '.' then
      discard next
      dottedKey fuel (k :: acc)
    else return (k :: acc).reverse

/-- Whether some characters are decimal digits with single underscores between them. -/
def digitsWithUnderscores (isDigit : Char → Bool) (cs : List Char) : Bool :=
  !cs.isEmpty && cs.head?.any isDigit && cs.getLast?.any isDigit &&
    (cs.all fun c => isDigit c || c = '_') && !((cs.zip cs.tail).any fun (a, b) => a = '_' && b = '_')

/-- The number some digits write in a base, underscores skipped. -/
def digitsValue (base : Nat) (cs : List Char) : Nat :=
  cs.foldl (fun n c => match hexDigit? c with
    | some d => base * n + d
    | none => n) 0

/-- The first integer past the largest signed 64-bit value: integers are signed 64-bit. -/
def integerBound : Nat := 9223372036854775808

/-- The value a number token writes. A float is the double nearest to it, and one too large
for a double is refused unless it is negative. -/
def numberValue (token : List Char) : Reading Value := do
  let isDec (c : Char) : Bool := c.isDigit
  let (sign, body) := match token with
    | '+' :: rest => (some '+', rest)
    | '-' :: rest => (some '-', rest)
    | _ => (none, token)
  let negative := sign = some '-'
  match body with
  | ['i', 'n', 'f'] => return .float (if negative then -(1 / 0) else 1 / 0)
  | ['n', 'a', 'n'] => return .float (0 / 0)
  | '0' :: 'x' :: ds | '0' :: 'o' :: ds | '0' :: 'b' :: ds =>
    let base := match body.tail.head? with
      | some 'x' => 16
      | some 'o' => 8
      | _ => 2
    let ok (c : Char) : Bool := match hexDigit? c with
      | some d => d < base
      | none => false
    if sign.isSome || !digitsWithUnderscores ok ds then throw "a bad number"
    let n := digitsValue base ds
    if n ≥ integerBound then throw "a number is too large"
    return .int n
  | _ =>
    let (mantissa, exponent) := match body.idxOf? 'e', body.idxOf? 'E' with
      | some i, _ => (body.take i, some (body.drop (i + 1)))
      | none, some i => (body.take i, some (body.drop (i + 1)))
      | none, none => (body, none)
    let (whole, fraction) := match mantissa.idxOf? '.' with
      | some i => (mantissa.take i, some (mantissa.drop (i + 1)))
      | none => (mantissa, none)
    if !digitsWithUnderscores isDec whole then throw "a bad number"
    if whole.length > 1 && whole.head? = some '0' then throw "a leading zero"
    match fraction, exponent with
    | none, none =>
      let n := digitsValue 10 whole
      let i : Int := if negative then -(n : Int) else n
      if i ≥ (integerBound : Int) || i < -(integerBound : Int) then throw "a number is too large"
      return .int i
    | _, _ =>
      let fractionDigits := fraction.getD []
      if fraction.isSome && !digitsWithUnderscores isDec fractionDigits then throw "a bad fraction"
      let scale : Int ← match exponent with
        | some e =>
          let (down, e) := match e with
            | '+' :: r => (false, r)
            | '-' :: r => (true, r)
            | r => (false, r)
          if !digitsWithUnderscores isDec e then throw "a bad exponent"
          let n : Int := digitsValue 10 e
          pure (if down then -n else n)
        | none => pure 0
      let places := (fractionDigits.filter (· ≠ '_')).length
      let x := Text.doubleOf negative (digitsValue 10 (whole ++ fractionDigits)) (scale - places)
      if x == 1 / 0 then throw "a number is too large"
      return .float x

/-- A number or boolean token: the characters up to a separator. -/
def scalarToken : Scan (List Char) := do
  let isTokenChar (c : Char) : Bool := c.isAlphanum || c = '_' || c = '+' || c = '-' || c = '.' || c = ':'
  let cs ← get
  let token := cs.takeWhile isTokenChar
  set (cs.drop token.length)
  return token

/-- Exactly `n` decimal digits at the front of a text, as a number, and the rest. -/
def digitsAhead (n : Nat) (cs : List Char) : Option (Nat × List Char) :=
  let ds := cs.take n
  if ds.length = n && ds.all Char.isDigit then some (digitsValue 10 ds, cs.drop n) else none

/-- A two-digit field from `low` to `high` at the front of a text, and the rest. -/
def fieldAhead (low high : Nat) (cs : List Char) : Option (Nat × List Char) :=
  match digitsAhead 2 cs with
  | some (v, rest) => if low ≤ v && v ≤ high then some (v, rest) else none
  | none => none

/-- The number of days of a month of a year of the Gregorian calendar. -/
def daysInMonth (year month : Nat) : Nat :=
  let leap := year % 4 == 0 && (year % 100 != 0 || year % 400 == 0)
  match month with
  | 2 => if leap then 29 else 28
  | 4 | 6 | 9 | 11 => 30
  | _ => 31

/-- A reading of a date or time at the front of a text: `none` when the text does not start
with one, the text after it, or a refusal once it started well and then broke. -/
abbrev Ahead := Except String (Option (List Char))

/-- A time `hh:mm:ss`, with a fraction of a second if one follows. It starts once an hour and a
colon are read. -/
def timeAhead (cs : List Char) : Ahead :=
  match fieldAhead 0 23 cs with
  | some (_, ':' :: rest) =>
    match fieldAhead 0 59 rest with
    | some (_, ':' :: rest) =>
      match fieldAhead 0 60 rest with
      | some (_, '.' :: d :: more) =>
        if d.isDigit then .ok (some (more.dropWhile Char.isDigit)) else .ok (some ('.' :: d :: more))
      | some (_, rest) => .ok (some rest)
      | none => .error "a bad second"
    | _ => .error "a bad minute"
  | _ => .ok none

/-- The offset after a time, if there is one: `Z`, or a sign, hours and minutes. -/
def offsetAhead (cs : List Char) : Except String (List Char) :=
  match cs with
  | 'Z' :: rest | 'z' :: rest => .ok rest
  | '+' :: rest | '-' :: rest =>
    match fieldAhead 0 23 rest with
    | some (_, ':' :: rest) =>
      match fieldAhead 0 59 rest with
      | some (_, rest) => .ok rest
      | none => .error "a bad offset"
    | _ => .error "a bad offset"
  | _ => .ok cs

/-- A date `yyyy-mm-dd` of the calendar. It starts once a year and a dash are read. -/
def dateAhead (cs : List Char) : Ahead :=
  match digitsAhead 4 cs with
  | some (year, '-' :: rest) =>
    match fieldAhead 1 12 rest with
    | some (month, '-' :: rest) =>
      match fieldAhead 1 31 rest with
      | some (day, rest) =>
        if day ≤ daysInMonth year month then .ok (some rest) else .error "a day past its month"
      | none => .error "a bad day"
    | _ => .error "a bad month"
  | _ => .ok none

/-- A date, maybe with a time after `T` or a blank and then an offset, or else a time alone. -/
def dateTimeAhead (cs : List Char) : Ahead := do
  match ← dateAhead cs with
  | some rest =>
    match rest with
    | d :: more =>
      if d = 'T' || d = 't' || d = ' ' then
        match ← timeAhead more with
        | some rest => return some (← offsetAhead rest)
        | none => return some rest
      else return some rest
    | [] => return some rest
  | none => timeAhead cs

/-- The key a date-time is kept under, which is the name of no field. -/
def dateTimeKey : String := "$__toml_private_datetime"

mutual

/-- A value. -/
def value : Nat → Scan Value
  | 0 => throw "the document nests too deeply"
  | fuel + 1 => do
    let budget := (← get).length + 1
    match ← peek with
    | some '"' =>
      if ← startsWith ['"', '"', '"'] then
        modify (·.drop 3)
        discard lineBreak
        return .str (← multiLineString '"' budget [])
      else
        discard next
        return .str (← basicString budget [])
    | some '\'' =>
      if ← startsWith ['\'', '\'', '\''] then
        modify (·.drop 3)
        discard lineBreak
        return .str (← multiLineString '\'' budget [])
      else
        discard next
        return .str (← literalString budget [])
    | some '[' =>
      discard next
      arrayItems fuel []
    | some '\x7b' =>
      discard next
      skipBlanks
      if (← peek) = some '\x7d' then
        discard next
        return .map []
      inlineTable fuel []
    | some c => do
      if c.isDigit || c = '+' || c = '-' then
        let cs ← get
        match dateTimeAhead cs with
        | .error e => throw e
        | .ok (some rest) =>
          set rest
          return .map [(.str dateTimeKey, .str (String.ofList (cs.take (cs.length - rest.length))))]
        | .ok none => pure ()
      let token ← scalarToken
      match token with
      | ['t', 'r', 'u', 'e'] => return .bool true
      | ['f', 'a', 'l', 's', 'e'] => return .bool false
      | [] => throw "a value was expected"
      | _ => numberValue token
    | none => throw "a value was expected"

/-- The items of an array after its opening bracket. -/
def arrayItems : Nat → List Value → Scan Value
  | 0, _ => throw "the document nests too deeply"
  | fuel + 1, acc => do
    skipLayout ((← get).length + 1)
    if (← peek) = some ']' then
      discard next
      return .seq acc.reverse
    let v ← value fuel
    skipLayout ((← get).length + 1)
    match ← next with
    | ',' => arrayItems fuel (v :: acc)
    | ']' => return .seq (v :: acc).reverse
    | _ => throw "an array is not closed"

/-- The pairs of an inline table after its opening brace, on one line and with no trailing
comma. -/
def inlineTable : Nat → List (String × Node) → Scan Value
  | 0, _ => throw "the document nests too deeply"
  | fuel + 1, entries => do
    let key ← dottedKey ((← get).length + 1) []
    expect '='
    skipBlanks
    let v ← value fuel
    let entries ← match assign entries v key with
      | .ok es => pure es
      | .error e => throw e
    skipBlanks
    match ← next with
    | ',' => skipBlanks; inlineTable fuel entries
    | '\x7d' => return (Node.table entries .dotted).value
    | _ => throw "an inline table is not closed"

end

/-- The state of reading a document: its root table and the path of the table that pairs go
to. -/
structure Document where
  root : List (String × Node) := []
  current : List String := []

/-- Reads the lines of a document. -/
def lines : Nat → Document → Scan Document
  | 0, _ => throw "the document is too long"
  | fuel + 1, doc => do
    skipBlanks
    skipComment
    if (← get).isEmpty then return doc
    if ← lineBreak then return ← lines fuel doc
    let budget := (← get).length + 1
    if (← peek) = some '[' then
      discard next
      let arrayOfTables := (← peek) = some '['
      if arrayOfTables then discard next
      let path ← dottedKey budget []
      expect ']'
      if arrayOfTables then expect ']'
      endLine
      let root ← match defineHeader doc.root arrayOfTables path with
        | .ok r => pure r
        | .error e => throw e
      lines fuel { root, current := path }
    else
      let key ← dottedKey budget []
      expect '='
      skipBlanks
      let v ← value budget
      endLine
      let root ← match atPath doc.root doc.current fun es => assign es v key with
        | .ok r => pure r
        | .error e => throw e
      lines fuel { doc with root }

/-- Reads a TOML document into a map. A byte order mark before it is skipped. -/
def read (text : String) : Reading Value := do
  let cs := match text.toList with
    | '\uFEFF' :: rest => rest
    | cs => cs
  let (doc, _) ← (lines (cs.length + 1) {}).run cs
  return .map (entriesValue doc.root)

end Toml
end Config
end ResultLint
