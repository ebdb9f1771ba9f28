import ResultLint.CommandLine.Flag

/-!
# Help and version texts

The short help lists the path argument and every flag on one line each, their descriptions
lined up in a column two spaces past the longest name. The long help puts each description on
the lines below its name, indented by ten spaces, with a blank line between entries. It lists
the described choices of a flag one per line where the short help names them in brackets.

Both texts end in one line break and carry no blanks at their end.
-/

namespace ResultLint
namespace CommandLine

/-- The usage line's text after `Usage: `. -/
def usage : String := programName ++ " [OPTIONS] [" ++ pathValueName ++ "]"

/-- The version text. -/
def versionText : String := programName ++ " " ++ programVersion ++ "\n"

/-- A run of spaces. -/
def spaces (n : Nat) : String := String.ofList (List.replicate n ' ')

/-- The bracketed notes after a description: the default, or the names a value may take, for
flags whose names carry no description of their own in the listing at hand. -/
def notes (long : Bool) (kind : ValueKind) : List String :=
  match kind with
  | .choice names =>
    if long && names.any (·.2.isSome) then []
    else ["[possible values: " ++ ", ".intercalate (names.map (·.1)) ++ "]"]
  | _ => []

/-- How a flag's name is written in the listing, after the indent. -/
def Flag.heading (f : Flag) : String :=
  (match f.short? with
   | some c => "-" ++ c.toString ++ ", "
   | none => "    ") ++ f.display

/-- The listed choices of a flag, for the long help. -/
def choiceLines (kind : ValueKind) : List String :=
  match kind with
  | .choice names =>
    if names.any (·.2.isSome) then
      let widest := (names.map (·.1.length)).foldl max 0
      "Possible values:" :: names.map fun (n, d) =>
        "- " ++ n ++ match d with
          | some text => ": " ++ spaces (widest - n.length) ++ text
          | none => ""
    else []
  | _ => []

/-- A long-help entry: its heading, then its description and notes, ten spaces in. -/
def longEntry (heading description : String) (noteLines choices : List String) : String :=
  let body := description :: (if noteLines.isEmpty then [] else "" :: noteLines)
  let indented := body.map fun line => spaces 10 ++ line
  let listed := if choices.isEmpty then [] else "" :: choices.map fun line => spaces 10 ++ line
  "\n".intercalate (("  " ++ heading) :: indented ++ listed)

/-- Drops blanks and line breaks at the end of a text. -/
def trimEnd (s : String) : String :=
  String.ofList (s.toList.reverse.dropWhile (fun c => c == ' ' || c == '\n')).reverse

/-- The help text, short or long. -/
def helpText (long : Bool) : String :=
  let pathHeading := "[" ++ pathValueName ++ "]"
  let pathNote := "[default: " ++ pathDefault ++ "]"
  let arguments :=
    if long then longEntry pathHeading pathHelp [pathNote] []
    else "  " ++ pathHeading ++ spaces 2 ++ pathHelp ++ " " ++ pathNote
  let widest := (Flag.all.map (·.heading.length)).foldl max 2
  let options := Flag.all.map fun f =>
    if long then longEntry f.heading f.description (notes true f.valueKind) (choiceLines f.valueKind)
    else
      let tail := notes false f.valueKind
      "  " ++ f.heading ++ spaces (widest + 2 - f.heading.length) ++
        " ".intercalate (f.summary :: tail)
  let sep := if long then "\n\n" else "\n"
  trimEnd (programAbout ++ "\n\nUsage: " ++ usage ++ "\n\nArguments:\n" ++ arguments ++
    "\n\nOptions:\n" ++ sep.intercalate options) ++ "\n"

end CommandLine
end ResultLint
