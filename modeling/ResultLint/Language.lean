import ResultLint.Path

/-!
# Source languages

A source file is Kotlin when its extension is `kt` or `kts`, Java when it is `java`; the
extension is compared exactly, so `A.JAVA` is no source file.
-/

namespace ResultLint

/-- The languages the analysis reads. -/
inductive Language where
  | kotlin
  | java
  deriving DecidableEq, Repr, Inhabited

namespace Language

/-- The language's name in reports. -/
def name : Language → String
  | kotlin => "kotlin"
  | java => "java"

/-- The language of a file, by its extension. -/
def ofPath? (path : String) : Option Language :=
  match Path.extension? path with
  | some "kt" | some "kts" => some kotlin
  | some "java" => some java
  | _ => none

end Language

/-- Whether a path names a Java package description file. -/
def isPackageInfo (path : String) : Bool := Path.fileName? path == some "package-info.java"

end ResultLint
