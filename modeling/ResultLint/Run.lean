import ResultLint.CommandLine.Parse
import ResultLint.Config.File
import ResultLint.Discovery
import ResultLint.SourceFile
import ResultLint.Analysis
import ResultLint.Report

/-!
# Runs of the command line

One run reads its command line, loads the configuration and the project properties, finds
and reads the source files, analyses them and reports the findings.

* The project root is the path, or the directory of the path when it names a file.
* The configuration is the file the command line names, or else the first of six usual names
  that exists in the project root, or else the defaults. The command line's flags then
  replace the targets, profile and exemption, and add exclude patterns and annotations.
* The properties file is the one the command line names, or `gradle.properties` in the root.
  One that is missing, unreadable or malformed counts as empty.
* Reading a source file that is not UTF-8 stops the run, unless files are read in parallel,
  which passes over such files.
* The report goes to the standard output, or for JSON and SARIF to the file the command line
  names. The run ends with code 1 when some finding is an error.
-/

namespace ResultLint

/-- Why a run stops without a report. -/
inductive Failure where
  | unreadableConfig (path : String)
  | malformedConfig (message : String)
  | unreadableSource (path : String)
  | unwritableReport (path : String)
  deriving DecidableEq, Repr, Inhabited

/-- The message of a failed run. -/
def Failure.message : Failure → String
  | .unreadableConfig path => "Failed to read config file: " ++ path
  | .malformedConfig message => message
  | .unreadableSource path => "Failed to read " ++ path
  | .unwritableReport path => "Failed to write report to " ++ path

/-- What a finished run leaves: its exit code, its two output streams, and the workspace as
it is afterwards. -/
structure Outcome where
  exitCode : Nat
  stdout : String
  stderr : String
  workspace : Workspace
  deriving Repr, Inhabited

namespace Run

open CommandLine

/-- The names of configuration files looked for in a project root, in order. -/
def configNames : List String :=
  [".checkreturnvalue.yml", ".checkreturnvalue.yaml", ".checkreturnvalue.toml",
   "checkreturnvalue.yml", "checkreturnvalue.yaml", "checkreturnvalue.toml"]

/-- The name of the properties file in a project root. -/
def propertiesName : String := "gradle.properties"

/-- The directory holding the project's files, also when the path names one file. -/
def projectRoot (w : Workspace) (path : String) : String :=
  if w.isFile path then Path.parent path else path

/-- The configuration in a file, read by its extension. -/
def configFile (w : Workspace) (path : String) : Except Failure Config :=
  match w.readText? path with
  | none => .error (.unreadableConfig path)
  | some text => (Config.ofText (Config.Syntax.ofPath path) text).mapError .malformedConfig

/-- A configuration with a command line's flags applied. -/
def withFlags (r : Request) (c : Config) : Config :=
  { c with
    targets := if r.targets.isEmpty then c.targets else r.targets
    exclude := c.exclude ++ r.excludes
    profile := r.profile.getD c.profile
    annotations :=
      { custom := c.annotations.custom ++ r.customAnnotations
        exclude := c.annotations.exclude ++ r.excludeAnnotations
        exemption := r.exemption.getD c.annotations.exemption }
    checks := if r.noMisuseCheck then { c.checks with misuse := false } else c.checks }

/-- The configuration of a run. -/
def config (w : Workspace) (r : Request) : Except Failure Config := do
  let base ← match r.config with
    | some path => configFile w path
    | none =>
      let root := projectRoot w r.path
      match configNames.find? fun n => w.exists? (Path.join root n) with
      | some n => configFile w (Path.join root n)
      | none => pure {}
  pure (withFlags r base)

/-- The project properties of a run. -/
def properties (w : Workspace) (r : Request) : Properties :=
  let path := r.properties.getD (Path.join (projectRoot w r.path) propertiesName)
  Properties.parseOrEmpty ((w.readText? path).getD "")

/-- The units of the source files, in order. -/
def units (w : Workspace) (parallel : Bool) (files : List String) : Except Failure (List SourceUnit) :=
  files.foldlM (fun acc path =>
    match w.readText? path with
    | some text => .ok (acc ++ (SourceUnit.read? path text).toList)
    | none => if parallel then .ok acc else .error (.unreadableSource path)) []

/-- Writes a report in a machine-readable format: to the standard output, or to a file with
a note on the standard output. -/
def emit (w : Workspace) (output : Option String) (label contents : String) :
    Except Failure (String × Workspace) :=
  match output with
  | none => .ok (contents ++ "\n", w)
  | some path =>
    match w.write? path contents.toUTF8.toList with
    | some w' => .ok (label ++ " written to: " ++ path ++ "\n", w')
    | none => .error (.unwritableReport path)

/-- Analyses the project a request names and reports on it. -/
def analyze (w : Workspace) (r : Request) : Except Failure Outcome := do
  let c ← config w r
  let props := properties w r
  let files := Discovery.sourceFiles w c r.path
  let stderr := if files.isEmpty && !r.quiet then "No Kotlin or Java files found.\n" else ""
  let us ← units w r.parallel files
  let findings := (Analysis.ofConfig c props).run { units := us.toArray }
  let format := r.format.getD ((ReportFormat.ofName? c.report.format).getD .terminal)
  let (stdout, w') ← match format with
    | .terminal => pure (Report.terminalText c.profile findings, w)
    | .json => emit w r.output "Report" (Report.jsonDocument c.profile findings).pretty
    | .sarif => emit w r.output "SARIF report" (Report.sarifDocument c.profile findings).pretty
  let exitCode := if findings.any (·.severity == .error) then 1 else 0
  pure { exitCode, stdout, stderr, workspace := w' }

end Run

/-- One run of the command line, without the program's name, in a workspace. -/
def run (w : Workspace) (args : List String) : Except Failure Outcome :=
  match CommandLine.parse args with
  | .showHelp long => .ok { exitCode := 0, stdout := CommandLine.helpText long, stderr := "", workspace := w }
  | .showVersion => .ok { exitCode := 0, stdout := CommandLine.versionText, stderr := "", workspace := w }
  | .refuse e => .ok { exitCode := 2, stdout := "", stderr := e.message, workspace := w }
  | .run r => Run.analyze w r

end ResultLint
