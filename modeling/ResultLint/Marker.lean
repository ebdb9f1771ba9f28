import ResultLint.Annotation

/-!
# Markers and the exemption

A marker is an annotation that says a method's result must be used; the exemption says it may
be ignored. A profile fixes the built-in markers, configuration adds and removes names, and the
exemption (by qualified or simple name) is never among the markers.
-/

namespace ResultLint

/-- The annotation that lets a result be ignored, unless configured otherwise. -/
def defaultExemption : String := "com.google.errorprone.annotations.CanIgnoreReturnValue"

/-- The one marker of the optional profile. -/
def optionalMarker : String := "io.reactivex.annotations.OptionalCheckReturnValue"

/-- The built-in markers of the configurable profile. -/
def defaultMarkers : List String :=
  ["CheckReturnValue",
   "androidx.annotation.CheckResult",
   "com.support.annotation.CheckResult",
   "edu.umd.cs.findbugs.annotations.CheckReturnValue",
   "javax.annotation.CheckReturnValue",
   "io.reactivex.annotations.CheckReturnValue",
   "com.google.errorprone.annotations.CheckReturnValue"]

/-- Which family of markers a check looks for. -/
inductive Profile where
  | configurable
  | optional
  deriving DecidableEq, Repr, Inhabited

namespace Profile

/-- The built-in marker names of a profile. -/
def markers : Profile → List String
  | configurable => defaultMarkers
  | optional => [optionalMarker]

/-- The rule a profile's findings are reported under. -/
def ruleId : Profile → String
  | configurable => "ConfigurableCheckReturnValue"
  | optional => "OptionalCheckReturnValue"

/-- The profile's name in configuration. -/
def name : Profile → String
  | configurable => "configurable"
  | optional => "optional"

/-- Reads a profile from its name. -/
def ofName? : String → Option Profile
  | "configurable" => some configurable
  | "optional" => some optional
  | _ => none

/-- Every profile, in order. -/
def all : List Profile := [configurable, optional]

end Profile

/-- The effective markers, the names that are never markers, and the exemption. -/
structure MarkerSet where
  markers : List String
  excluded : List String
  exemption : String
  deriving DecidableEq, Repr, Inhabited

namespace MarkerSet

/-- Adds candidate names in order, skipping the exemption (qualified or simple), excluded names
and repeats. -/
def collect (excluded : List String) (exemption : String) :
    List String → List String → List String
  | acc, [] => acc
  | acc, name :: rest =>
    if name = exemption ∨ name = TypeName.shortName exemption ∨ name ∈ excluded ∨ name ∈ acc then
      collect excluded exemption acc rest
    else collect excluded exemption (acc ++ [name]) rest

/-- The marker set of a profile with added and excluded names and an exemption. -/
def resolve (profile : Profile) (custom excluded : List String) (exemption : String) :
    MarkerSet :=
  { markers := collect excluded exemption [] (profile.markers ++ custom), excluded, exemption }

/-- The marker set of the configurable profile with nothing added. -/
def standard : MarkerSet := resolve .configurable [] [] defaultExemption

/-- An annotation matching a marker and no excluded name. -/
def isMarker (m : MarkerSet) (a : Annotation) : Bool :=
  m.markers.any a.matchesName && !m.excluded.any a.matchesName

/-- An annotation naming the exemption, by its qualified or its simple name. -/
def isExemption (m : MarkerSet) (a : Annotation) : Bool :=
  a.matchesName m.exemption || a.matchesName (TypeName.shortName m.exemption)

/-- The first marker of a list. -/
def findMarker? (m : MarkerSet) (as : List Annotation) : Option Annotation := as.find? m.isMarker

/-- The first exemption of a list. -/
def findExemption? (m : MarkerSet) (as : List Annotation) : Option Annotation :=
  as.find? m.isExemption

/-- Whether a list holds the exemption. -/
def containsExemption (m : MarkerSet) (as : List Annotation) : Bool := as.any m.isExemption

end MarkerSet

end ResultLint
