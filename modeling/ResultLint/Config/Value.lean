import ResultLint.Text.Visible
import ResultLint.Text.Double

/-!
# Configuration documents

A configuration is written in JSON, YAML or TOML. Each is first read into the same tree of
values, and the configuration is then read from that tree, so the three formats agree on
defaults and on what a field may hold. JSON and TOML values carry their type; a YAML scalar is
typed only when a field reads it, by its text, whether it was written plain and its tag, and
an empty plain scalar reads as an empty sequence or structure.

The formats differ in a few readings, named by `Dialect`: how a sequence may stand for a
structure, and how a profile may be written as a map.
-/

namespace ResultLint
namespace Config

/-- A value of a configuration document. A mapping's keys are values too: YAML allows any node
as a key. -/
inductive Value where
  | null
  | bool (b : Bool)
  | int (i : Int)
  | float (x : Float)
  | str (s : String)
  | seq (items : List Value)
  | map (entries : List (Value × Value))
  /-- A scalar whose type is decided by the field that reads it, as in YAML: its text, whether
  it was written plain, without quotes, and its tag, if it has one. -/
  | scalar (text : String) (plain : Bool) (tag : Option String)
  deriving Repr, Inhabited

/-- The notation a document was written in, where the readings of a value differ. -/
inductive Dialect where
  | json
  | yaml
  | toml
  deriving DecidableEq, Repr, Inhabited

/-- A string as a quoted, escaped literal, the way messages show a text value. -/
def quote (s : String) : String := Text.quoted s

/-- How a value is described when it has the wrong type. -/
def Value.describe : Value → String
  | .null => "null"
  | .bool b => s!"boolean `{b}`"
  | .int i => s!"integer `{i}`"
  | .float x => "floating point `" ++ Text.doubleText x ++ "`"
  | .str s => "string " ++ quote s
  | .seq _ => "sequence"
  | .map _ => "map"
  | .scalar s _ _ => "string " ++ quote s

/-- The message for a value of the wrong type. -/
def invalidType (v : Value) (expected : String) : String :=
  s!"invalid type: {v.describe}, expected {expected}"

/-- The text of a value that names a field: a string or a scalar. -/
def Value.name? : Value → Option String
  | .str s => some s
  | .scalar s _ _ => some s
  | _ => none

/-- The value under a key of a map, the last one if the key is written twice. -/
def Value.member? (v : Value) (key : String) : Option Value :=
  match v with
  | .map entries => (entries.filter fun e => e.1.name? == some key).getLast?.map (·.2)
  | _ => none

/-- Whether a value is an empty scalar written plain, which reads as an empty collection. -/
def Value.isEmptyPlain : Value → Bool
  | .scalar "" true _ => true
  | _ => false

end Config
end ResultLint
