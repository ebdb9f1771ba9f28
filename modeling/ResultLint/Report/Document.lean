/-!
# JSON documents

Reports are JSON documents whose object members keep the order they are written in. The
indented rendering puts every array item and object member on its own line, two spaces deeper
than its container; an empty array or object stays on one line. Strings escape the quote, the
backslash and the control characters, and nothing else.
-/

namespace ResultLint

/-- A JSON document with ordered object members. -/
inductive Document where
  | null
  | bool (b : Bool)
  | num (n : Nat)
  | str (s : String)
  | arr (items : List Document)
  | obj (fields : List (String × Document))
  deriving Repr, Inhabited

namespace Document

/-- The hexadecimal digit of a value below sixteen, in lower case. -/
def hexDigit (n : Nat) : Char :=
  if n < 10 then Char.ofNat (48 + n) else Char.ofNat (87 + n)

/-- The escaped form of one character inside a string literal. -/
def escapeChar (c : Char) : String :=
  if c = '"' then "\\\""
  else if c = '\\' then "\\\\"
  else if c = '\n' then "\\n"
  else if c = '\r' then "\\r"
  else if c = '\t' then "\\t"
  else if c.toNat = 8 then "\\b"
  else if c.toNat = 12 then "\\f"
  else if c.toNat < 32 then
    "\\u00" ++ String.singleton (hexDigit (c.toNat / 16)) ++ String.singleton (hexDigit (c.toNat % 16))
  else String.singleton c

/-- A string literal. -/
def quote (s : String) : String :=
  "\"" ++ String.join (s.toList.map escapeChar) ++ "\""

/-- The indentation of a nesting depth. -/
def indent (depth : Nat) : String := String.ofList (List.replicate (2 * depth) ' ')

mutual

/-- The indented rendering of a document nested `depth` levels deep. -/
def render (d : Document) (depth : Nat) : String :=
  match d with
  | .null => "null"
  | .bool b => if b then "true" else "false"
  | .num n => toString n
  | .str s => quote s
  | .arr [] => "[]"
  | .arr items => "[\n" ++ renderItems items (depth + 1) ++ "\n" ++ indent depth ++ "]"
  | .obj [] => "\x7b\x7d"
  | .obj fields => "\x7b\n" ++ renderFields fields (depth + 1) ++ "\n" ++ indent depth ++ "\x7d"

/-- Array items, one a line. -/
def renderItems (items : List Document) (depth : Nat) : String :=
  match items with
  | [] => ""
  | [d] => indent depth ++ render d depth
  | d :: rest => indent depth ++ render d depth ++ ",\n" ++ renderItems rest depth

/-- Object members, one a line. -/
def renderFields (fields : List (String × Document)) (depth : Nat) : String :=
  match fields with
  | [] => ""
  | [(k, v)] => indent depth ++ quote k ++ ": " ++ render v depth
  | (k, v) :: rest => indent depth ++ quote k ++ ": " ++ render v depth ++ ",\n" ++ renderFields rest depth

end

/-- The indented rendering of a whole document. -/
def pretty (d : Document) : String := render d 0

end Document

end ResultLint
