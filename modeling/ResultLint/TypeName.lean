import ResultLint.Text.Blank
import ResultLint.Text.Letter

/-!
# Written type names

A type is written in source as a simple name (`Parser`), a dotted name (`java.util.List`),
possibly with type arguments, a nullability mark or array brackets. This module reduces such a
text to its simple name and resolves a simple name against a file's imports and package.
-/

namespace ResultLint
namespace TypeName

/-- The last `.`-separated segment of a name; the whole name when it has no dot. -/
def shortName (s : String) : String :=
  String.ofList (s.toList.reverse.takeWhile (· != '.')).reverse

/-- Drops every copy of a suffix from the end of a character list. -/
def dropSuffixes (suffix : List Char) (cs : List Char) : List Char :=
  if h : suffix ≠ [] ∧ suffix.isSuffixOf cs then
    dropSuffixes suffix (cs.take (cs.length - suffix.length))
  else cs
termination_by cs.length
decreasing_by
  have hne : suffix.length ≠ 0 := by simpa using h.1
  have hle : suffix.length ≤ cs.length := (List.isSuffixOf_iff_suffix.mp h.2).length_le
  simp only [List.length_take]
  omega

/-- The simple name of a written type: `java.util.List<String>` gives `List`, `Foo?` and
`Foo[]` give `Foo`. An inferred `var`, or a text that is not a plain name, gives none. -/
def simpleTypeName (written : String) : Option String :=
  let base := written.toList.takeWhile (· != '<')
  let base := Text.dropBlanksEnd (Text.dropBlanks base)
  let base := Text.dropBlanksEnd (Text.dropBlanks (dropSuffixes ['[', ']'] (dropSuffixes ['?'] base)))
  let simple := shortName (String.ofList base)
  if simple.isEmpty || simple == "var" ||
      !simple.toList.all (fun c => Text.isAlphanumeric c || c == '_') then none
  else some simple

/-- Resolves a name as written to a qualified name. A dotted name is taken as it is; a simple
name is the first single-type import that ends in it, or else a member of the file's package. -/
def resolve (written : String) (imports : List String) (package : Option String) : String :=
  if written.toList.contains '.' then written
  else
    match imports.find? (fun i => !(i.toList.getLast? == some '*') && shortName i == written) with
    | some i => i
    | none =>
      match package with
      | some p => if p.isEmpty then written else p ++ "." ++ written
      | none => written

end TypeName
end ResultLint
