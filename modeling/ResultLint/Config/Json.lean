import ResultLint.Config.Value

/-!
# JSON configuration documents

Reads a JSON text into a document value. A number is an integer when it is written without a
fraction or an exponent and fits a 64-bit integer, unsigned when it is not negative and signed
when it is; every other number, `-0` included, is a double, read fast rather than exactly:
`3e-300` reads as `2.9999999999999996e-300`. An object's members are
kept sorted by key, and of a key written twice the later value is kept.
-/

namespace ResultLint
namespace Config
namespace Json

/-- The text after blanks and line breaks. -/
def skipSpace (cs : List Char) : List Char :=
  cs.dropWhile fun c => c = ' ' || c = '\t' || c = '\n' || c = '\r'

/-- The value of four hexadecimal digits at the front of a text, and the text after them.
Each reader here gives its result with the text left after it, or the reason the text is
refused. -/
def hexQuad (cs : List Char) : Except String (Nat × List Char) :=
  let ds := cs.take 4
  let value := ds.foldl (fun acc c => do
    let a ← acc
    if c.isDigit then pure (16 * a + (c.toNat - 48))
    else if 'a' ≤ c && c ≤ 'f' then pure (16 * a + (c.toNat - 87))
    else if 'A' ≤ c && c ≤ 'F' then pure (16 * a + (c.toNat - 55))
    else none) (some 0)
  match value with
  | some n => if ds.length = 4 then .ok (n, cs.drop 4) else .error "a short unicode escape"
  | none => .error "a bad unicode escape"

/-- The character a `\u` escape names, after the `u`: a surrogate pair is two escapes. -/
def unicodeEscape (cs : List Char) : Except String (Char × List Char) := do
  let (n, rest) ← hexQuad cs
  if 0xD800 ≤ n && n < 0xDC00 then
    match rest with
    | '\\' :: 'u' :: more =>
      let (low, rest) ← hexQuad more
      if 0xDC00 ≤ low && low < 0xE000 then
        pure (Char.ofNat (0x10000 + (n - 0xD800) * 0x400 + (low - 0xDC00)), rest)
      else throw "a lone surrogate"
    | _ => throw "a lone surrogate"
  else if 0xDC00 ≤ n && n < 0xE000 then throw "a lone surrogate"
  else pure (Char.ofNat n, rest)

/-- The rest of a string after its opening quote. -/
def stringBody : Nat → List Char → List Char → Except String (String × List Char)
  | 0, _, _ => .error "a string is not closed"
  | fuel + 1, acc, cs =>
    match cs with
    | [] => .error "a string is not closed"
    | '"' :: rest => .ok (String.ofList acc.reverse, rest)
    | '\\' :: e :: rest =>
      let simple : Option Char := match e with
        | '"' => some '"'
        | '\\' => some '\\'
        | '/' => some '/'
        | 'b' => some (Char.ofNat 8)
        | 'f' => some (Char.ofNat 12)
        | 'n' => some '\n'
        | 'r' => some '\r'
        | 't' => some '\t'
        | _ => none
      match simple with
      | some c => stringBody fuel (c :: acc) rest
      | none =>
        if e = 'u' then do
          let (c, rest) ← unicodeEscape rest
          stringBody fuel (c :: acc) rest
        else .error "an unknown escape"
    | c :: rest =>
      if c.toNat < 32 then .error "a control character in a string"
      else stringBody fuel (c :: acc) rest

/-- The largest unsigned 64-bit integer. -/
def unsignedMax : Nat := 18446744073709551615

/-- The magnitude of the most negative signed 64-bit integer. -/
def signedMin : Nat := 9223372036854775808

/-- Whether the digit `d` written after the significand `n` takes it past the largest unsigned
64-bit integer. -/
def overflows (n d : Nat) : Bool :=
  n ≥ unsignedMax / 10 && (n > unsignedMax / 10 || d > unsignedMax % 10)

/-- The significand `n` with the digits `ds` written after it, as long as it stays within 64
bits, and the digits that no longer fit. -/
def significandOf : Nat → List Char → Nat × List Char
  | n, [] => (n, [])
  | n, c :: rest =>
    let d := c.toNat - 48
    if overflows n d then (n, c :: rest) else significandOf (10 * n + d) rest

/-- The largest signed 32-bit integer, the bound of an exponent. -/
def exponentMax : Int := 2147483647

/-- The value of exponent digits, or none when it passes the largest signed 32-bit integer. -/
def exponentOf (ds : List Char) : Option Int :=
  ds.foldl (fun acc c => acc.bind fun n =>
    let d : Int := c.toNat - 48
    if n ≥ exponentMax / 10 && (n > exponentMax / 10 || d > exponentMax % 10) then none
    else some (10 * n + d)) (some 0)

/-- A number at the front of a text: an integer when it has no fraction or exponent and fits,
and otherwise a double. The double is read fast: the digits that fit 64 bits make the
significand, the digits after them only move the decimal exponent, and `Text.scaledDouble`
scales it. An exponent past 32 bits makes zero, or is refused for a nonzero number that it
would make larger. -/
def number (cs : List Char) : Except String (Value × List Char) := do
  let (negative, body) := match cs with
    | '-' :: rest => (true, rest)
    | _ => (false, cs)
  let whole := body.takeWhile Char.isDigit
  if whole.isEmpty then throw "a digit was expected"
  if whole.length > 1 && whole.head? = some '0' then throw "a leading zero"
  let rest := body.drop whole.length
  let (fraction, rest) ← match rest with
    | '.' :: more =>
      let ds := more.takeWhile Char.isDigit
      if ds.isEmpty then throw "a digit was expected after the point"
      pure (some ds, more.drop ds.length)
    | _ => pure (none, rest)
  let (exponent, rest) ← match rest with
    | 'e' :: more | 'E' :: more =>
      let (down, more) := match more with
        | '+' :: r => (false, r)
        | '-' :: r => (true, r)
        | r => (false, r)
      let ds := more.takeWhile Char.isDigit
      if ds.isEmpty then throw "a digit was expected in the exponent"
      pure (some (down, exponentOf ds), more.drop ds.length)
    | _ => pure (none, rest)
  let signed (x : Float) : Float := if negative then -x else x
  let (m, unread) := significandOf 0 whole
  let scale (significand : Nat) (e : Int) : Except String (Value × List Char) :=
    match Text.scaledDouble significand e with
    | some x => pure (.float (signed x), rest)
    | none => throw "a number out of range"
  match fraction, exponent with
  | none, none =>
    if !unread.isEmpty then scale m unread.length
    else if !negative then pure (.int m, rest)
    else if 0 < m && m ≤ signedMin then pure (.int (-(m : Int)), rest)
    else pure (.float (-m.toUInt64.toFloat), rest)
  | _, _ =>
    let ds := fraction.getD []
    let (m, dropped) := significandOf m ds
    let before : Int := unread.length - (ds.length - dropped.length)
    match exponent with
    | none => scale m before
    | some (down, none) =>
      if m != 0 && !down then throw "a number out of range"
      else pure (.float (signed 0), rest)
    | some (down, some n) =>
      let e := if down then before - n else before + n
      scale m (max (-exponentMax - 1) (min exponentMax e))

/-- The members of an object with `key` set to `v`: a key written again keeps its place and
takes the later value. -/
def setMember (members : List (String × Value)) (key : String) (v : Value) :
    List (String × Value) :=
  if members.any (·.1 == key) then members.map fun e => if e.1 == key then (key, v) else e
  else members ++ [(key, v)]

/-- An object's members as a map sorted by key. -/
def sortedMap (members : List (String × Value)) : Value :=
  .map ((members.mergeSort fun a b => !decide (b.1 < a.1)).map fun (k, v) => (.str k, v))

mutual

/-- A value at the front of a text, after blanks. -/
def value : Nat → List Char → Except String (Value × List Char)
  | 0, _ => .error "the document nests too deeply"
  | fuel + 1, cs =>
    match skipSpace cs with
    | '\x7b' :: rest => members fuel [] (skipSpace rest)
    | '[' :: rest => items fuel [] (skipSpace rest)
    | '"' :: rest => do
      let (s, rest) ← stringBody (rest.length + 1) [] rest
      pure (.str s, rest)
    | 'n' :: 'u' :: 'l' :: 'l' :: rest => .ok (.null, rest)
    | 't' :: 'r' :: 'u' :: 'e' :: rest => .ok (.bool true, rest)
    | 'f' :: 'a' :: 'l' :: 's' :: 'e' :: rest => .ok (.bool false, rest)
    | cs => number cs

/-- The items of an array after its opening bracket. -/
def items : Nat → List Value → List Char → Except String (Value × List Char)
  | 0, _, _ => .error "the document nests too deeply"
  | fuel + 1, acc, cs =>
    match acc, cs with
    | [], ']' :: rest => .ok (.seq [], rest)
    | _, _ => do
      let (v, rest) ← value fuel cs
      match skipSpace rest with
      | ',' :: rest => items fuel (v :: acc) rest
      | ']' :: rest => pure (.seq (v :: acc).reverse, rest)
      | _ => throw "an array is not closed"

/-- The members of an object after its opening brace. -/
def members : Nat → List (String × Value) → List Char → Except String (Value × List Char)
  | 0, _, _ => .error "the document nests too deeply"
  | fuel + 1, acc, cs =>
    match acc, cs with
    | [], '\x7d' :: rest => .ok (sortedMap [], rest)
    | _, _ =>
      match skipSpace cs with
      | '"' :: rest => do
        let (key, rest) ← stringBody (rest.length + 1) [] rest
        match skipSpace rest with
        | ':' :: rest =>
          let (v, rest) ← value fuel rest
          let acc := setMember acc key v
          match skipSpace rest with
          | ',' :: rest => members fuel acc rest
          | '\x7d' :: rest => pure (sortedMap acc, rest)
          | _ => throw "an object is not closed"
        | _ => throw "a colon was expected"
      | _ => throw "a key was expected"

end

/-- Reads a JSON text that holds one value. -/
def read (text : String) : Except String Value := do
  let cs := text.toList
  let (v, rest) ← value (cs.length + 1) cs
  if (skipSpace rest).isEmpty then pure v else throw "text follows the value"

end Json
end Config
end ResultLint
