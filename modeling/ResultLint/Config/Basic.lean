import ResultLint.Config.Value
import ResultLint.Marker
import ResultLint.Properties

/-!
# The configuration

Every field of a configuration has a default, so an empty document is the default
configuration. A document gives fields by name (unknown names are ignored, a repeated name is
an error) or, in JSON and TOML, as a sequence in declaration order. An explanation is the one
entry whose three fields are all required.
-/

namespace ResultLint

/-- A text shown with the findings on one method of one class. -/
structure Explanation where
  owner : String
  method : String
  text : String
  deriving DecidableEq, Repr, Inhabited

/-- Which annotations count as markers beyond the profile, and which one exempts. -/
structure AnnotationConfig where
  custom : List String := []
  exclude : List String := []
  exemption : String := defaultExemption
  deriving DecidableEq, Repr, Inhabited

/-- Which detectors run. -/
structure ChecksConfig where
  ignoredReturn : Bool := true
  misuse : Bool := true
  deriving DecidableEq, Repr, Inhabited

/-- How findings are reported. -/
structure ReportConfig where
  format : String := "terminal"
  deriving DecidableEq, Repr, Inhabited

/-- The path patterns a project never analyses, unless configured otherwise. -/
def defaultExcludes : List String :=
  ["**/build/**", "**/generated/**", "**/.gradle/**", "**/.idea/**"]

/-- A complete configuration. -/
structure Config where
  targets : List String := []
  exclude : List String := defaultExcludes
  profile : Profile := .configurable
  annotations : AnnotationConfig := {}
  explanations : List Explanation := []
  checks : ChecksConfig := {}
  report : ReportConfig := {}
  deriving DecidableEq, Repr, Inhabited

namespace Config

/-- The markers of a configuration, extended and reduced by a project's properties. -/
def markerSet (c : Config) (p : Properties) : MarkerSet :=
  MarkerSet.resolve c.profile (c.annotations.custom ++ p.customAnnotations)
    (c.annotations.exclude ++ p.excludeAnnotations) c.annotations.exemption

/-- The spellings of the two booleans. -/
def spelledBool? : String → Option Bool
  | "true" | "True" | "TRUE" => some true
  | "false" | "False" | "FALSE" => some false
  | _ => none

/-- The spellings of null. -/
def spelledNull (t : String) : Bool :=
  t == "" || t == "~" || t == "null" || t == "Null" || t == "NULL"

/-- Reads a boolean. A YAML scalar is one when it is written plain and spells a boolean,
whatever its tag: a quoted or block scalar is a text even when tagged as a boolean. -/
def readBool : Value → Except String Bool
  | .bool b => .ok b
  | v@(.scalar t plain _) =>
    match if plain then spelledBool? t else none with
    | some b => .ok b
    | none => .error (invalidType v "a boolean")
  | v => .error (invalidType v "a boolean")

/-- Reads a text. -/
def readString : Value → Except String String
  | .str s => .ok s
  | .scalar s _ _ => .ok s
  | v => .error (invalidType v "a string")

/-- Reads a path. -/
def readPath : Value → Except String String
  | .str s => .ok s
  | .scalar s _ _ => .ok s
  | v => .error (invalidType v "path string")

/-- Reads a sequence, each item with the same reader. -/
def readSeq {α : Type} (item : Value → Except String α) : Value → Except String (List α)
  | .seq items => items.mapM item
  | v => if v.isEmptyPlain then .ok [] else .error (invalidType v "a sequence")

/-- A profile by its name. -/
def profileNamed (s : String) : Except String Profile :=
  match Profile.ofName? s with
  | some p => .ok p
  | none => .error s!"unknown variant `{s}`, expected `configurable` or `optional`"

/-- Reads a profile by its name. JSON and TOML also write it as a map of one entry, the name to
null in JSON and to an empty table or array in TOML; YAML also writes it as a tag `!name` on a
null scalar. -/
def readProfile (d : Dialect) : Value → Except String Profile
  | .str s => profileNamed s
  | .scalar s plain tag =>
    match tag with
    | some g =>
      if g.startsWith "!" then do
        let p ← profileNamed (if g == "!" then g else String.ofList (g.toList.drop 1))
        if plain && spelledNull s then pure p
        else .error s!"invalid value: string {quote s}, expected null"
      else profileNamed s
    | none => profileNamed s
  | v@(.map entries) =>
    match d, entries with
    | .yaml, _ => .error (invalidType v "a YAML tag starting with '!'")
    | .json, [(k, x)] => do
      let p ← profileNamed (k.name?.getD "")
      match x with
      | .null => pure p
      | _ => .error (invalidType x "unit")
    | .toml, [(k, x)] => do
      let p ← profileNamed (k.name?.getD "")
      match x with
      | .map [] | .seq [] => pure p
      | .seq _ => .error "expected empty array"
      | _ => .error "expected empty table"
    | _, _ => .error "invalid value: map, expected map with a single key"
  | v => .error (invalidType v "string or map")

/-- Reads a structure whose fields all have defaults: from a map, known keys in document
order, each at most once; from a sequence, fields in declaration order, where JSON refuses
more items than fields, TOML ignores them, and YAML refuses a sequence. -/
def readStruct {S : Type} (d : Dialect) (name : String) (fields : List String) (init : S)
    (set : String → Value → S → Except String S) : Value → Except String S
  | .map entries =>
    Prod.fst <$> entries.foldlM
      (fun (acc : S × List String) (kv : Value × Value) =>
        match kv.1.name? with
        | none => .error (invalidType kv.1 "field identifier")
        | some key =>
          if key ∈ fields then
            if key ∈ acc.2 then .error s!"duplicate field `{key}`"
            else do
              let s ← set key kv.2 acc.1
              pure (s, key :: acc.2)
          else pure acc)
      (init, [])
  | v@(.seq items) =>
    match d with
    | .yaml => .error (invalidType v ("struct " ++ name))
    | .json =>
      if items.length > fields.length then
        .error s!"invalid length {items.length}, expected fewer elements in array"
      else (fields.zip items).foldlM (fun s fv => set fv.1 fv.2 s) init
    | .toml => (fields.zip items).foldlM (fun s fv => set fv.1 fv.2 s) init
  | v => if v.isEmptyPlain then .ok init else .error (invalidType v ("struct " ++ name))

/-- Reads an explanation; each of its fields is required. -/
def readExplanation (d : Dialect) : Value → Except String Explanation
  | .map entries => do
    let found ← entries.foldlM
      (fun (acc : Option String × Option String × Option String) (kv : Value × Value) =>
        match kv.1.name? with
        | none => .error (invalidType kv.1 "field identifier")
        | some "owner" =>
          if acc.1.isSome then .error "duplicate field `owner`"
          else do let s ← readString kv.2; pure (some s, acc.2)
        | some "method" =>
          if acc.2.1.isSome then .error "duplicate field `method`"
          else do let s ← readString kv.2; pure (acc.1, some s, acc.2.2)
        | some "text" =>
          if acc.2.2.isSome then .error "duplicate field `text`"
          else do let s ← readString kv.2; pure (acc.1, acc.2.1, some s)
        | some _ => pure acc)
      (none, none, none)
    match found with
    | (none, _, _) => .error "missing field `owner`"
    | (_, none, _) => .error "missing field `method`"
    | (_, _, none) => .error "missing field `text`"
    | (some owner, some method, some text) => pure { owner, method, text }
  | v@(.seq items) =>
    let short (n : Nat) : String :=
      s!"invalid length {n}, expected struct ExplanationEntry with 3 elements"
    match d, items with
    | .yaml, _ => .error (invalidType v "struct ExplanationEntry")
    | .json, [o, m, t] | .toml, o :: m :: t :: _ => do
      let owner ← readString o
      let method ← readString m
      let text ← readString t
      pure { owner, method, text }
    | _, _ =>
      if items.length > 3 then
        .error s!"invalid length {items.length}, expected fewer elements in array"
      else
        match items with
        | [] => .error (short 0)
        | [o] => do
          let _ ← readString o
          .error (short 1)
        | o :: m :: _ => do
          let _ ← readString o
          let _ ← readString m
          .error (short 2)
  | v => if v.isEmptyPlain then .error "missing field `owner`"
    else .error (invalidType v "struct ExplanationEntry")

/-- Reads the annotation settings. -/
def readAnnotations (d : Dialect) : Value → Except String AnnotationConfig :=
  readStruct d "AnnotationConfig" ["custom", "exclude", "exemption"] {} fun key v a =>
    match key with
    | "custom" => do pure { a with custom := ← readSeq readString v }
    | "exclude" => do pure { a with exclude := ← readSeq readString v }
    | _ => do pure { a with exemption := ← readString v }

/-- Reads the detector switches. -/
def readChecks (d : Dialect) : Value → Except String ChecksConfig :=
  readStruct d "ChecksConfig" ["ignored_return", "misuse"] {} fun key v c =>
    match key with
    | "ignored_return" => do pure { c with ignoredReturn := ← readBool v }
    | _ => do pure { c with misuse := ← readBool v }

/-- Reads the report settings. -/
def readReport (d : Dialect) : Value → Except String ReportConfig :=
  readStruct d "ReportConfig" ["format"] {} fun _ v r => do
    pure { r with format := ← readString v }

/-- Reads a configuration from a document value written in a dialect. -/
def ofValue (d : Dialect) : Value → Except String Config :=
  readStruct d "Config"
    ["targets", "exclude", "profile", "annotations", "explanations", "checks", "report"] {}
    fun key v c =>
      match key with
      | "targets" => do pure { c with targets := ← readSeq readPath v }
      | "exclude" => do pure { c with exclude := ← readSeq readString v }
      | "profile" => do pure { c with profile := ← readProfile d v }
      | "annotations" => do pure { c with annotations := ← readAnnotations d v }
      | "explanations" => do pure { c with explanations := ← readSeq (readExplanation d) v }
      | "checks" => do pure { c with checks := ← readChecks d v }
      | _ => do pure { c with report := ← readReport d v }

end Config

end ResultLint
