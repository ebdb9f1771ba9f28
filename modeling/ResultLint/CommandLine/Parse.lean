import ResultLint.CommandLine.Help
import ResultLint.Text.Similarity

/-!
# Reading a command line

Arguments are read left to right. A flag that takes a value takes the text after `=` (long
names), the rest of the argument (short names), or else the next argument unless that one
looks like a flag. Short names may be grouped behind one `-`. After `--` every argument is
plain. The first plain argument is the path to analyze, and a second one is refused.

A value is checked when the next flag or plain argument is read, or at the end. So the first
fault from the left is the one reported, except that an unknown flag wins over a fault in the
value just before it. `--help`, `-h`, `--version` and `-V` end the reading as soon as they are
met.

A refused command line is reported with the text of its fault; an unknown flag is answered
with the most similar known one, if any is similar enough.
-/

namespace ResultLint
namespace CommandLine

/-- An argument slot of the command line: a flag, or the path to analyze. -/
inductive Slot where
  | flag (f : Flag)
  | path
  deriving DecidableEq, Repr, Inhabited

/-- Why a command line is refused. -/
inductive UsageError where
  /-- An argument that names no flag, or a plain argument past the path; maybe with a similar
  flag, maybe with the advice to pass it after `--`, and the usage line to show. -/
  | unexpectedArgument (arg : String) (similar : Option String) (valueTip : Bool) (usage : String)
  /-- A value that is none of a flag's names, maybe with a similar name. -/
  | invalidValue (flag value : String) (choices : List String) (similar : Option String)
  /-- A flag with no value, or with an empty one where it needs text. -/
  | missingValue (flag : String) (choices : List String)
  /-- A flag given twice that may be given once. -/
  | repeated (flag : String)
  /-- A value attached to a flag that takes none. -/
  | unexpectedValue (flag value usage : String)
  deriving DecidableEq, Repr, Inhabited

/-- What a command line asks for. -/
inductive Parsed where
  | run (r : Request)
  | showHelp (long : Bool)
  | showVersion
  | refuse (e : UsageError)
  deriving Repr, Inhabited

/-- The closing line of every refusal. -/
def tryHelp : String := "\n\nFor more information, try '--help'.\n"

/-- The names a value may take, as a refusal lists them. -/
def possibleValues (choices : List String) : String :=
  if choices.isEmpty then "" else "\n  [possible values: " ++ ", ".intercalate choices ++ "]"

/-- The text of a refusal. -/
def UsageError.message : UsageError → String
  | .unexpectedArgument arg similar valueTip use =>
    let similarTip := match similar with
      | some s => "\n\n  tip: a similar argument exists: '" ++ s ++ "'"
      | none => ""
    let valueAdvice :=
      if valueTip then
        (if similar.isSome then "" else "\n") ++ "\n  tip: to pass '" ++ arg ++
          "' as a value, use '-- " ++ arg ++ "'"
      else ""
    "error: unexpected argument '" ++ arg ++ "' found" ++ similarTip ++ valueAdvice ++
      "\n\nUsage: " ++ use ++ tryHelp
  | .invalidValue flag value choices similar =>
    let similarTip := match similar with
      | some s => "\n\n  tip: a similar value exists: '" ++ s ++ "'"
      | none => ""
    "error: invalid value '" ++ value ++ "' for '" ++ flag ++ "'" ++ possibleValues choices ++
      similarTip ++ tryHelp
  | .missingValue flag choices =>
    "error: a value is required for '" ++ flag ++ "' but none was supplied" ++
      possibleValues choices ++ tryHelp
  | .repeated flag =>
    "error: the argument '" ++ flag ++ "' cannot be used multiple times\n\nUsage: " ++ usage ++ tryHelp
  | .unexpectedValue flag value use =>
    "error: unexpected value '" ++ value ++ "' for '" ++ flag ++
      "' found; no more were expected\n\nUsage: " ++ use ++ tryHelp

/-- The program's own arguments as one alternative of a usage line: the path, then every flag
but the built-in ones. -/
def ownArguments : String :=
  "<" ++ "|".intercalate (pathValueName :: (Flag.all.filter (!·.isBuiltin)).map Flag.display) ++ ">"

/-- The usage line naming the slots given so far: their flags in the order first given, then the
path, in angle brackets when it is given and in square brackets when not. When `grouped`, the
program's own arguments are named together as one alternative in place of the path, and only
built-in flags stand alone. With no slot given it is the full usage line. -/
def usageOf (given : List Slot) (grouped : Bool) : String :=
  if given.isEmpty then usage
  else
    let flags := given.filterMap fun s =>
      match s with
      | .flag f => if grouped && !f.isBuiltin then none else some f.display
      | .path => none
    let flags := flags.foldl (fun acc x => if acc.contains x then acc else acc ++ [x]) []
    let tail :=
      if grouped then ownArguments
      else if given.contains .path then "<" ++ pathValueName ++ ">"
      else "[" ++ pathValueName ++ "]"
    " ".intercalate (programName :: flags ++ [tail])

/-- A command line part way through its reading. -/
structure Reading where
  request : Request := {}
  /-- The slots given so far, each once, in the order first given. -/
  given : List Slot := []
  /-- The slot whose values are read but not yet checked. -/
  pending : Option (Slot × List String) := none
  /-- The pending flag still waits for its value. -/
  awaiting : Bool := false
  pathTaken : Bool := false
  afterDashes : Bool := false
  deriving Repr, Inhabited

namespace Reading

/-- The reading with a slot recorded as given. -/
def note (rd : Reading) (s : Slot) : Reading :=
  if rd.given.contains s then rd else { rd with given := rd.given ++ [s] }

/-- Checks a flag's value and records it. -/
def takeValue (rd : Reading) (f : Flag) (v : String) : Except Parsed Reading :=
  match f.valueKind with
  | .text => .ok { rd with request := rd.request.withValue f v }
  | .path =>
    if v.isEmpty then .error (.refuse (.missingValue f.display []))
    else .ok { rd with request := rd.request.withValue f v }
  | .choice names =>
    let choices := names.map (·.1)
    if choices.contains v then .ok { rd with request := rd.request.withValue f v }
    else if v.isEmpty then .error (.refuse (.missingValue f.display choices))
    else .error (.refuse (.invalidValue f.display v choices (Text.closest? v choices)))

/-- Records a slot's values: a flag needs one, and one that may be given once must not be
given again. -/
def settle (rd : Reading) (s : Slot) (values : List String) : Except Parsed Reading :=
  match s with
  | .path =>
    let rd := rd.note .path
    match values with
    | v :: _ =>
      if v.isEmpty then .error (.refuse (.missingValue ("[" ++ pathValueName ++ "]") []))
      else .ok { rd with request := { rd.request with path := v } }
    | [] => .error (.refuse (.missingValue ("[" ++ pathValueName ++ "]") []))
  | .flag f =>
    if values.isEmpty then .error (.refuse (.missingValue f.display f.choices))
    else if !f.repeats && rd.given.contains (.flag f) then .error (.refuse (.repeated f.display))
    else values.foldlM (fun acc v => acc.takeValue f v) (rd.note (.flag f))

/-- Checks the pending slot's values. -/
def resolve (rd : Reading) : Except Parsed Reading :=
  match rd.pending with
  | none => .ok rd
  | some (s, values) => settle { rd with pending := none, awaiting := false } s values

/-- The slots given once the pending one is checked, whether or not its values pass: a
slot with values counts as given, unless it is a second use of a flag that may be given
once, which takes back the first. -/
def givenAfterResolve (rd : Reading) : List Slot :=
  match rd.pending with
  | some (.flag f, _ :: _) =>
    if !f.repeats && rd.given.contains (.flag f) then rd.given.erase (.flag f)
    else (rd.note (.flag f)).given
  | some (.path, _ :: _) => (rd.note .path).given
  | _ => rd.given

/-- Meets a flag that stands alone. -/
def meetSwitch (rd : Reading) (f : Flag) : Except Parsed Reading := do
  let rd ← rd.resolve
  match f with
  | .help => .error (.showHelp false)
  | .version => .error .showVersion
  | _ =>
    if rd.given.contains (.flag f) then .error (.refuse (.repeated f.display))
    else .ok { (rd.note (.flag f)) with request := rd.request.withSwitch f }

/-- Meets a flag that takes a value, with its value when attached. -/
def meetValued (rd : Reading) (f : Flag) (attached : Option String) : Except Parsed Reading := do
  let rd ← rd.resolve
  match attached with
  | some v => rd.settle (.flag f) [v]
  | none => .ok { rd with pending := some (.flag f, []), awaiting := true }

/-- Meets `--name` or `--name=value`. -/
def meetLong (rd : Reading) (body : String) : Except Parsed Reading :=
  let (name, attached) : String × Option String :=
    match body.splitOn "=" with
    | [n] => (n, none)
    | n :: rest => (n, some ("=".intercalate rest))
    | [] => (body, none)
  match Flag.ofLong? name with
  | some f =>
    if f.valueName?.isSome then rd.meetValued f attached
    else
      match attached with
      | some v =>
        .error (.refuse (.unexpectedValue f.display v
          (usageOf (rd.given ++ [.flag f]) !rd.given.isEmpty)))
      | none =>
        match f with
        | .help => do let _ ← rd.resolve; .error (.showHelp true)
        | _ => rd.meetSwitch f
  | none =>
    let similar := Text.closest? name (Flag.all.map Flag.long)
    let given := givenAfterResolve rd
    let given := match similar.bind Flag.ofLong? with
      | some f => if given.contains (.flag f) then given else given ++ [.flag f]
      | none => given
    .error (.refuse (.unexpectedArgument ("--" ++ name) (similar.map ("--" ++ ·)) similar.isNone
      (usageOf given false)))

/-- Meets a group of short names after `-`. -/
def meetShort (rd : Reading) : List Char → Except Parsed Reading
  | [] => .ok rd
  | c :: rest =>
    match Flag.ofShort? c with
    | some f =>
      if f.valueName?.isSome then
        if rest.isEmpty then rd.meetValued f none
        else
          let v := match rest with
            | '=' :: more => more
            | _ => rest
          rd.meetValued f (some (String.ofList v))
      else do
        let rd ← rd.meetSwitch f
        meetShort rd rest
    | none => .error (.refuse (.unexpectedArgument ("-" ++ c.toString) none true usage))

/-- Meets a plain argument that is not a flag's value: the path, the first time. -/
def meetPositional (rd : Reading) (arg : String) : Except Parsed Reading :=
  if rd.pathTaken then .error (.refuse (.unexpectedArgument arg none false usage))
  else do
    let rd ← rd.resolve
    .ok { rd with pending := some (.path, [arg]), pathTaken := true }

/-- Meets a plain argument: the awaited value of a flag, or else the path. -/
def meetPlain (rd : Reading) (arg : String) : Except Parsed Reading :=
  match rd.pending with
  | some (s, _) =>
    if rd.awaiting && !rd.afterDashes then .ok { rd with pending := some (s, [arg]), awaiting := false }
    else rd.meetPositional arg
  | none => rd.meetPositional arg

/-- Meets one argument. -/
def meet (rd : Reading) (arg : String) : Except Parsed Reading :=
  if rd.afterDashes then rd.meetPlain arg
  else if arg == "--" then .ok { rd with afterDashes := true }
  else if arg.startsWith "--" then rd.meetLong (String.ofList (arg.toList.drop 2))
  else if arg.startsWith "-" && arg.length > 1 then rd.meetShort (arg.toList.drop 1)
  else rd.meetPlain arg

end Reading

/-- What a command line, without the program's name, asks for. -/
def parse (args : List String) : Parsed :=
  match args.foldlM Reading.meet {} >>= Reading.resolve with
  | .ok rd => .run rd.request
  | .error p => p

end CommandLine
end ResultLint
