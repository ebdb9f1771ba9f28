import ResultLint.TypeName
import ResultLint.Dictionary

/-!
# Annotations

An annotation as it is applied to a declaration, a package or a file: the name as written, the
name resolved against the file's imports and package, and its string-valued arguments. A
configured annotation name matches by qualified name when it has a dot, and by simple name
otherwise.
-/

namespace ResultLint

/-- An applied annotation. The attributes are sorted by name, each name once. -/
structure Annotation where
  name : String
  qualifiedName : String
  attributes : Dictionary String := {}
  deriving DecidableEq, Repr, Inhabited

namespace Annotation

/-- The value of an attribute. -/
def attribute? (a : Annotation) (key : String) : Option String := a.attributes.get? key

/-- The last segment of the qualified name. -/
def simpleName (a : Annotation) : String := TypeName.shortName a.qualifiedName

/-- Whether the annotation is the one a configured name stands for. -/
def matchesName (a : Annotation) (configured : String) : Bool :=
  if configured.toList.contains '.' then a.qualifiedName == configured
  else a.simpleName == configured

end Annotation

end ResultLint
