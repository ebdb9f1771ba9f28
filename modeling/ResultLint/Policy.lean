import ResultLint.Marker
import ResultLint.Config.Basic

/-!
# When a discarded result is reported

A call whose result is discarded is reported unless its marker is itself the exemption or an
enclosing scope (the calling method, its classes, its package or file) carries the exemption.
A marker may suggest another method to call; without a suggestion, a known explanation for the
method's owner and name is added to the message.
-/

namespace ResultLint

/-- The explanation shipped for `android.graphics.Rect#intersect`. -/
def rectIntersectExplanation : String :=
  "If the rectangles do not intersect, no change is made and the original rectangle is not modified. These methods return false to indicate that this has happened."

/-- Explanations keyed by owner and method; a later entry replaces an earlier one. -/
structure ExplanationTable where
  entries : List ((String × String) × String) := []
  deriving DecidableEq, Repr, Inhabited

namespace ExplanationTable

/-- Adds or replaces the explanation of a method. -/
def insert (t : ExplanationTable) (owner method text : String) : ExplanationTable :=
  ⟨((owner, method), text) :: t.entries.filter (·.1 != (owner, method))⟩

/-- Adds configured explanations in order. -/
def extend (t : ExplanationTable) (es : List Explanation) : ExplanationTable :=
  es.foldl (fun t e => t.insert e.owner e.method e.text) t

/-- The explanation of a method. -/
def lookup? (t : ExplanationTable) (owner method : String) : Option String :=
  (t.entries.find? (·.1 == (owner, method))).map (·.2)

/-- The table holding only the shipped explanation. -/
def standard : ExplanationTable :=
  ({} : ExplanationTable).insert "android.graphics.Rect" "intersect" rectIntersectExplanation

end ExplanationTable

/-- The annotations of the scopes around a call: the calling member, its classes from the
innermost out, and its package and file. -/
structure Scopes where
  member : List Annotation := []
  classes : List Annotation := []
  packageLevel : List Annotation := []
  deriving DecidableEq, Repr, Inhabited

/-- Every scope annotation, member first. -/
def Scopes.all (s : Scopes) : List Annotation := s.member ++ s.classes ++ s.packageLevel

/-- What a report on a discarded result says. -/
structure ResultReport where
  method : String
  suggestion : Option String
  explanation : Option String
  deriving DecidableEq, Repr, Inhabited

/-- The message of a report. -/
def ResultReport.message (r : ResultReport) : String :=
  let base :=
    match r.suggestion with
    | some s => s!"The result of '{r.method}' is not used; did you mean to call '{s}' instead?"
    | none => s!"The result of '{r.method}' is not used"
  match r.explanation with
  | some e => base ++ ". " ++ e
  | none => base

/-- The markers and explanations that decide reports. -/
structure Policy where
  markers : MarkerSet
  explanations : ExplanationTable
  deriving Repr, Inhabited

/-- The report on a call to `name` of `owner` with the given marker, if there is one. -/
def Policy.report? (p : Policy) (name : String) (owner : Option String) (marker : Annotation)
    (scopes : Scopes) (discarded : Bool) : Option ResultReport :=
  if p.markers.isExemption marker then none
  else if scopes.all.any p.markers.isExemption then none
  else if !discarded then none
  else
    let suggestion :=
      (marker.attribute? "suggest").bind fun v =>
        let s := String.ofList (v.toList.dropWhile (· = '#'))
        if s.isEmpty then none else some s
    let explanation :=
      match suggestion with
      | some _ => none
      | none => owner.bind fun o => p.explanations.lookup? o name
    some { method := name, suggestion, explanation }

end ResultLint
