import ResultLint.Resolution
import ResultLint.Arena.Usage
import ResultLint.TypeName

/-!
# Analysis

Two checks run over a project. The first reports calls whose marked result is discarded. The
second reports markers misused on declarations: a marker together with the exemption on one
class or method, and a marker or exemption on a method that returns nothing. The findings of
both are sorted by file, line, column and issue code; the sort is stable.
-/

namespace ResultLint

/-- The checks of one analysis and what they rely on. -/
structure Analysis where
  markers : MarkerSet
  explanations : ExplanationTable
  ignoredReturn : Bool := true
  misuse : Bool := true
  deriving Repr, Inhabited

namespace Analysis

/-- The analysis a configuration asks for, with the project properties' annotation lists. -/
def ofConfig (c : Config) (props : Properties) : Analysis :=
  { markers := c.markerSet props
    explanations := ExplanationTable.standard.extend c.explanations
    ignoredReturn := c.checks.ignoredReturn
    misuse := c.checks.misuse }

/-- The policy deciding reports on discarded results. -/
def policy (a : Analysis) : Policy := { markers := a.markers, explanations := a.explanations }

/-- The finding on one call, if its marked result is discarded and nothing exempts it. -/
def checkCall (a : Analysis) (p : Project) (unitIndex : Nat) (u : SourceUnit) (call : CallSite) :
    Option Finding :=
  (p.resolve a.markers unitIndex call).bind fun target =>
    let discarded := u.tree.isValueDiscarded call.node
    let owner := target.owner.map ClassDecl.qualifiedName
    (a.policy.report? target.decl.name owner target.marker (p.scopesAt unitIndex call)
      discarded).map fun report =>
      { issue := .ignoredReturnValue, location := call.location, name := report.method,
        message := report.message, fix := report.suggestion }

/-- Calls whose marked result is discarded, sorted. -/
def ignoredReturns (a : Analysis) (p : Project) : List Finding :=
  Finding.sort <| p.units.toList.zipIdx.flatMap fun (u, ui) =>
    u.calls.toList.filterMap (a.checkCall p ui u)

/-- The finding on a marker and the exemption on one declaration. -/
def conflict (a : Analysis) (marker : Annotation) (what name : String) (location : Location) :
    Finding :=
  { issue := .conflictingAnnotations, location, name,
    message := s!"@{marker.simpleName} and @{TypeName.shortName a.markers.exemption} cannot both be applied to the same {what}" }

/-- Misused markers in one unit: conflicts on classes, then on each method a conflict and a
marker or exemption on a method returning nothing. -/
def unitMisuses (a : Analysis) (u : SourceUnit) : List Finding :=
  let onClasses := u.classes.toList.filterMap fun c =>
    match a.markers.findMarker? c.annotations with
    | some marker =>
      if a.markers.containsExemption c.annotations then
        some (a.conflict marker "class" c.name c.location)
      else none
    | none => none
  let onMethods := u.methods.toList.flatMap fun m =>
    let marker := a.markers.findMarker? m.annotations
    let exemption := a.markers.findExemption? m.annotations
    let conflicts := match marker, exemption with
      | some found, some _ => [a.conflict found "method" m.name m.location]
      | _, _ => []
    let onVoid :=
      if m.isConstructor || m.returnsVoid != some true then []
      else
        match marker.orElse fun _ => exemption with
        | some an =>
          [{ issue := .annotationOnVoidMethod, location := m.location, name := m.name,
             message := s!"@{an.simpleName} may not be applied to void-returning methods" }]
        | none => []
    conflicts ++ onVoid
  onClasses ++ onMethods

/-- Misused markers across the project, sorted. -/
def misuses (a : Analysis) (p : Project) : List Finding :=
  Finding.sort (p.units.toList.flatMap a.unitMisuses)

/-- Every finding of the enabled checks, sorted. -/
def run (a : Analysis) (p : Project) : List Finding :=
  Finding.sort ((if a.ignoredReturn then a.ignoredReturns p else []) ++
    (if a.misuse then a.misuses p else []))

end Analysis

end ResultLint
