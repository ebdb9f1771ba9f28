import ResultLint.Java.SourceUnit
import ResultLint.Kotlin.SourceUnit
import ResultLint.Language

/-!
# Source files

A source file is read by the grammar of its language, which its extension names. Files of
other languages are not read.
-/

namespace ResultLint

/-- Reads a source file into a unit by the language its path names. -/
def SourceUnit.read? (path text : String) : Option SourceUnit :=
  match Language.ofPath? path with
  | some .java => some (SourceUnit.ofJava path text)
  | some .kotlin => some (SourceUnit.ofKotlin path text)
  | none => none

end ResultLint
