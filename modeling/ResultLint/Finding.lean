import ResultLint.Path

/-!
# Findings

A finding is one issue at one place of one file: an ignored return value, conflicting
annotations, or a marker on a method that returns nothing. Findings are listed by file (in path
order), then line, column and issue code; findings equal in all four keep their order.
-/

namespace ResultLint

/-- A place in a source file: 1-based line, 1-based column in bytes, and the byte range. -/
structure Location where
  file : String
  line : Nat
  column : Nat
  startByte : Nat
  endByte : Nat
  deriving DecidableEq, Repr, Inhabited

/-- How serious a finding is. -/
inductive Severity where
  | info
  | warning
  | error
  deriving DecidableEq, Repr, Inhabited

/-- The word for a severity. -/
def Severity.name : Severity → String
  | .info => "info"
  | .warning => "warning"
  | .error => "error"

/-- The kinds of issue the analysis reports. -/
inductive IssueKind where
  | ignoredReturnValue
  | conflictingAnnotations
  | annotationOnVoidMethod
  deriving DecidableEq, Repr, Inhabited

namespace IssueKind

/-- Every issue kind, in code order. -/
def all : List IssueKind := [ignoredReturnValue, conflictingAnnotations, annotationOnVoidMethod]

/-- The stable code of an issue kind. -/
def code : IssueKind → String
  | ignoredReturnValue => "CRV001"
  | conflictingAnnotations => "CRV002"
  | annotationOnVoidMethod => "CRV003"

/-- How serious an issue of this kind is. -/
def severity : IssueKind → Severity
  | ignoredReturnValue => .error
  | conflictingAnnotations => .warning
  | annotationOnVoidMethod => .warning

/-- The short title of an issue kind. -/
def displayName : IssueKind → String
  | ignoredReturnValue => "Ignored return value"
  | conflictingAnnotations => "Conflicting annotations"
  | annotationOnVoidMethod => "Annotation on void method"

/-- The explanation of an issue kind. -/
def description : IssueKind → String
  | ignoredReturnValue =>
    "Some methods have no side effects, and calling them without doing something with the result is suspicious."
  | conflictingAnnotations =>
    "A return value cannot be both required and ignorable on the same declaration."
  | annotationOnVoidMethod => "A method without a return value has no result to check."

end IssueKind

/-- One reported issue. -/
structure Finding where
  issue : IssueKind
  location : Location
  name : String
  message : String
  fix : Option String := none
  deriving DecidableEq, Repr, Inhabited

namespace Finding

/-- The severity of a finding, which is that of its kind. -/
def severity (f : Finding) : Severity := f.issue.severity

/-- Whether `f` may stay before `g` in the report order. -/
def le (f g : Finding) : Bool :=
  let a := f.location
  let b := g.location
  if Path.lt a.file b.file then true
  else if Path.lt b.file a.file then false
  else if a.line ≠ b.line then a.line < b.line
  else if a.column ≠ b.column then a.column < b.column
  else f.issue.code ≤ g.issue.code

/-- Findings in report order; equal keys keep their order. -/
def sort (fs : List Finding) : List Finding := fs.mergeSort le

end Finding

end ResultLint
