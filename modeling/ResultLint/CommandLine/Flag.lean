import ResultLint.Report
import ResultLint.Marker

/-!
# Command-line flags

The flags of the command line, what each one takes, and the request that a command line
makes once its flags are read.

A flag has a long name and maybe a one-letter short name. It either stands alone or takes
one value, and a value is any text, a path (any text but the empty one) or one of a few names.
Flags that gather values (targets, exclude patterns and annotation names) may repeat. Every
other flag may be given once. One plain argument, the path to analyze, may come among the flags.
-/

namespace ResultLint
namespace CommandLine

/-- The program's name on the command line. -/
def programName : String := "checkreturnvalue"

/-- The program's version. -/
def programVersion : String := "0.1.0"

/-- The program's one-line description. -/
def programAbout : String :=
  "A fast CLI tool to find ignored return values of annotated methods in Kotlin & Java projects"

/-- The flags of the command line, in the order the help lists them. -/
inductive Flag where
  | config
  | properties
  | target
  | exclude
  | format
  | output
  | profile
  | addMarker
  | dropMarker
  | exemption
  | noMisuseCheck
  | parallel
  | verbose
  | quiet
  | help
  | version
  deriving DecidableEq, Repr, Inhabited

/-- What a flag's value may be. -/
inductive ValueKind where
  /-- Any text. -/
  | text
  /-- Any text but the empty one. -/
  | path
  /-- One of some names, each with an optional description. -/
  | choice (names : List (String × Option String))
  deriving DecidableEq, Repr, Inhabited

/-- The name of the positional argument. -/
def pathValueName : String := "PATH"

/-- The help of the positional argument. -/
def pathHelp : String := "Path to the project directory (or a single source file) to analyze"

/-- The value the positional argument takes when it is not given. -/
def pathDefault : String := "."

namespace Flag

/-- Every flag, in order. -/
def all : List Flag :=
  [config, properties, target, exclude, format, output, profile, addMarker,
   dropMarker, exemption, noMisuseCheck, parallel, verbose, quiet, help, version]

/-- The long name, written after `--`. -/
def long : Flag → String
  | config => "config"
  | properties => "properties"
  | target => "target"
  | exclude => "exclude"
  | format => "format"
  | output => "output"
  | profile => "profile"
  | addMarker => "custom-annotation"
  | dropMarker => "exclude-annotation"
  | exemption => "exemption"
  | noMisuseCheck => "no-misuse-check"
  | parallel => "parallel"
  | verbose => "verbose"
  | quiet => "quiet"
  | help => "help"
  | version => "version"

/-- The short name, written after `-`. -/
def short? : Flag → Option Char
  | config => some 'c'
  | target => some 't'
  | exclude => some 'e'
  | format => some 'f'
  | output => some 'o'
  | verbose => some 'v'
  | quiet => some 'q'
  | help => some 'h'
  | version => some 'V'
  | _ => none

/-- The placeholder of the flag's value, for flags that take one. -/
def valueName? : Flag → Option String
  | config => some "CONFIG"
  | properties => some "FILE"
  | target => some "TARGET"
  | exclude => some "EXCLUDE"
  | format => some "FORMAT"
  | output => some "OUTPUT"
  | profile => some "PROFILE"
  | addMarker | dropMarker | exemption => some "NAME"
  | _ => none

/-- What the flag's value may be. -/
def valueKind : Flag → ValueKind
  | config | properties | target | output => .path
  | format => .choice [("terminal", none), ("json", none), ("sarif", none)]
  | profile => .choice [("configurable", some "Common `@CheckReturnValue`/`@CheckResult` annotations"),
      ("optional", some "RxJava's `@OptionalCheckReturnValue` only")]
  | _ => .text

/-- Whether the flag gathers a value each time it is given. -/
def repeats : Flag → Bool
  | target | exclude | addMarker | dropMarker => true
  | _ => false

/-- The flag's help in the short listing. -/
def summary : Flag → String
  | config => "Path to configuration file"
  | properties =>
    "Path to the properties file holding custom/excluded annotations (default: <PATH>/gradle.properties)"
  | target => "Target directories to analyze (can be specified multiple times)"
  | exclude => "Patterns to exclude (can be specified multiple times)"
  | format => "Output format (default: from config, else terminal)"
  | output => "Output file (for json/sarif formats)"
  | profile => "Preset marker list"
  | addMarker => "Additional marker annotation (can be specified multiple times)"
  | dropMarker => "Marker annotation to ignore (can be specified multiple times)"
  | exemption => "Annotation that cancels markers in its scope"
  | noMisuseCheck => "Skip validation of marker placement"
  | parallel => "Enable parallel parsing for faster analysis"
  | verbose => "Verbose output"
  | quiet => "Quiet mode - only output results"
  | help => "Print help (see more with '--help')"
  | version => "Print version"

/-- The flag's help in the long listing. -/
def description : Flag → String
  | help => "Print help (see a summary with '-h')"
  | f => f.summary

/-- Whether every command line has the flag whatever its program: help and version. The
others are the program's own arguments, with the path. -/
def isBuiltin : Flag → Bool
  | help | version => true
  | _ => false

/-- The flag with a long name. -/
def ofLong? (name : String) : Option Flag := all.find? (·.long == name)

/-- The flag with a short name. -/
def ofShort? (c : Char) : Option Flag := all.find? (·.short? == some c)

/-- How the flag is named in messages: its long name with its value's placeholder. -/
def display (f : Flag) : String :=
  "--" ++ f.long ++ match f.valueName? with
    | some v => " <" ++ v ++ ">"
    | none => ""

/-- The names a value of the flag may take, for flags that take one of some names. -/
def choices (f : Flag) : List String :=
  match f.valueKind with
  | .choice names => names.map (·.1)
  | _ => []

end Flag

/-- What a command line asks the program to do, once its flags are read. -/
structure Request where
  path : String := pathDefault
  config : Option String := none
  properties : Option String := none
  targets : List String := []
  excludes : List String := []
  format : Option ReportFormat := none
  output : Option String := none
  profile : Option Profile := none
  customAnnotations : List String := []
  excludeAnnotations : List String := []
  exemption : Option String := none
  noMisuseCheck : Bool := false
  parallel : Bool := false
  verbose : Bool := false
  quiet : Bool := false
  deriving Repr, Inhabited

namespace Request

/-- The request with a flag's checked value recorded. -/
def withValue (r : Request) (f : Flag) (v : String) : Request :=
  match f with
  | .config => { r with config := some v }
  | .properties => { r with properties := some v }
  | .target => { r with targets := r.targets ++ [v] }
  | .exclude => { r with excludes := r.excludes ++ [v] }
  | .format => { r with format := ReportFormat.ofName? v }
  | .output => { r with output := some v }
  | .profile => { r with profile := Profile.ofName? v }
  | .addMarker => { r with customAnnotations := r.customAnnotations ++ [v] }
  | .dropMarker => { r with excludeAnnotations := r.excludeAnnotations ++ [v] }
  | .exemption => { r with exemption := some v }
  | _ => r

/-- The request with a flag that stands alone set. -/
def withSwitch (r : Request) (f : Flag) : Request :=
  match f with
  | .noMisuseCheck => { r with noMisuseCheck := true }
  | .parallel => { r with parallel := true }
  | .verbose => { r with verbose := true }
  | .quiet => { r with quiet := true }
  | _ => r

end Request

end CommandLine
end ResultLint
