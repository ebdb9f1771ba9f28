import ResultLint.Report.Document
import ResultLint.Finding
import ResultLint.Marker
import ResultLint.Path

/-!
# Reports

Findings are reported in one of three formats. The terminal format groups findings by file,
in path order, and ends with a summary of counts. The JSON format lists the findings with
their totals. The SARIF format describes every rule and lists the findings as results.
-/

namespace ResultLint

/-- The output formats of a report. -/
inductive ReportFormat where
  | terminal
  | json
  | sarif
  deriving DecidableEq, Repr, Inhabited

namespace ReportFormat

/-- The format a name selects, ignoring ASCII case; `text` is the terminal format. -/
def ofName? (name : String) : Option ReportFormat :=
  match String.map Char.toLower name with
  | "terminal" | "text" => some .terminal
  | "json" => some .json
  | "sarif" => some .sarif
  | _ => none

/-- The name of a format. -/
def name : ReportFormat → String
  | .terminal => "terminal"
  | .json => "json"
  | .sarif => "sarif"

end ReportFormat

namespace Report

/-- The version of the tool named in SARIF reports. -/
def toolVersion : String := "0.1.0"

/-- How many findings have a severity. -/
def countOf (findings : List Finding) (s : Severity) : Nat :=
  (findings.filter fun f => f.severity == s).length

/-- The JSON report. A finding without a fix has no `fix` member. -/
def jsonDocument (profile : Profile) (findings : List Finding) : Document :=
  .obj [("version", .str "1.0"), ("rule", .str profile.ruleId),
    ("total_issues", .num findings.length),
    ("issues", .arr (findings.map fun f =>
      .obj ([("code", .str f.issue.code), ("severity", .str f.severity.name),
        ("name", .str f.name), ("message", .str f.message)] ++
        (match f.fix with
          | some x => [("fix", .str x)]
          | none => []) ++
        [("file", .str f.location.file), ("line", .num f.location.line),
         ("column", .num f.location.column)]))),
    ("summary", .obj [("errors", .num (countOf findings .error)),
      ("warnings", .num (countOf findings .warning)), ("infos", .num (countOf findings .info))])]

/-- The SARIF level of a severity. -/
def sarifLevel : Severity → String
  | .error => "error"
  | .warning => "warning"
  | .info => "note"

/-- The SARIF rule name of an issue kind: its display name in lower case, dashed. -/
def ruleName (k : IssueKind) : String :=
  String.map (fun c => if c = ' ' then '-' else c.toLower) k.displayName

/-- The SARIF report. -/
def sarifDocument (profile : Profile) (findings : List Finding) : Document :=
  let rules := IssueKind.all.map fun k =>
    Document.obj [("id", .str k.code), ("name", .str (ruleName k)),
      ("shortDescription", .obj [("text", .str k.displayName)]),
      ("fullDescription", .obj [("text", .str k.description)]),
      ("defaultConfiguration", .obj [("level", .str (sarifLevel k.severity))])]
  let results := findings.map fun f =>
    Document.obj [("ruleId", .str f.issue.code), ("level", .str (sarifLevel f.severity)),
      ("message", .obj [("text", .str f.message)]),
      ("locations", .arr [.obj [("physicalLocation", .obj [
        ("artifactLocation", .obj [("uri",
          .str (String.map (fun c => if c = '\\' then '/' else c) f.location.file))]),
        ("region", .obj [("startLine", .num f.location.line),
          ("startColumn", .num f.location.column)])])]]),
      ("properties", .obj ([("rule", .str profile.ruleId)] ++
        (match f.fix with
          | some x => [("fix", .str x)]
          | none => [])))]
  .obj [("$schema", .str "https://raw.githubusercontent.com/oasis-tcs/sarif-spec/master/Schemata/sarif-schema-2.1.0.json"),
    ("version", .str "2.1.0"),
    ("runs", .arr [.obj [
      ("tool", .obj [("driver", .obj [("name", .str "checkreturnvalue"),
        ("version", .str toolVersion),
        ("informationUri", .str "https://github.com/KevinDoremy/checkreturnvalue"),
        ("rules", .arr rules)])]),
      ("results", .arr results)]])]

/-- Findings grouped by file, files in path order, findings in their given order. Paths that
name the same file share a group, shown as first met. -/
def byFile (findings : List Finding) : List (String × List Finding) :=
  let groups := findings.foldl (fun (acc : List (String × List Finding)) f =>
    if acc.any (fun g => Path.same g.1 f.location.file) then
      acc.map fun g => if Path.same g.1 f.location.file then (g.1, g.2 ++ [f]) else g
    else acc ++ [(f.location.file, [f])]) []
  groups.mergeSort fun a b => !Path.lt b.1 a.1

/-- The lines of one finding in the terminal report. -/
def findingLines (f : Finding) : List String :=
  s!"  {f.location.line}:{f.location.column} {f.severity.name} [{f.issue.code}] {f.message}" ::
    match f.fix with
    | some x => [s!"    fix: replace '{f.name}' with '{x}'"]
    | none => []

/-- The terminal report, one string a line. -/
def terminalLines (profile : Profile) (findings : List Finding) : List String :=
  if findings.isEmpty then ["No ignored return values found!"]
  else
    let header := ["", s!"Found {findings.length} issues ({profile.ruleId}):", ""]
    let files := (byFile findings).flatMap fun (file, items) =>
      file :: items.flatMap findingLines ++ [""]
    let counts := [(countOf findings .error, "errors"), (countOf findings .warning, "warnings"),
      (countOf findings .info, "info")]
    let parts := (counts.filter (·.1 > 0)).map fun (n, what) => s!"{n} {what}"
    let kinds := IssueKind.all.filterMap fun k =>
      let n := (findings.filter (·.issue == k)).length
      if n > 0 then some s!"  {k.code} {n} × {k.displayName}" else none
    header ++ files ++
      [String.ofList (List.replicate 60 '─'), "Summary: " ++ ", ".intercalate parts] ++ kinds ++ [""]

/-- The terminal report as printed: every line ends with a line break. -/
def terminalText (profile : Profile) (findings : List Finding) : String :=
  String.join ((terminalLines profile findings).map (· ++ "\n"))

end Report

end ResultLint
