import ResultLint.Workspace
import ResultLint.Ignore.Rules
import ResultLint.Config.Glob
import ResultLint.Language

/-!
# Finding source files

The source files of a run are found by walking directories.

A path that names a file stands for itself. Otherwise each target directory, or the path itself
when the configuration names no targets, is walked. The walk never passes over where it
starts. Below that, it passes over what ignore files rule out, and over hidden names that no
rule keeps; a directory passed over is not entered.

Each directory may hold three ignore files:

* `.ignore`, which always applies;
* `.gitignore`, which applies only inside a repository, one with a `.git` somewhere above;
* `.git/info/exclude`, which also applies only inside a repository.

Of each kind, the ruling of the nearest directory with an opinion counts. Directories past the
repository's top are not consulted for the last two. Between kinds, `.ignore` comes first, then
`.gitignore`, then the exclude file.

The directories above the start of a walk are consulted too, each about the entry's path from
that directory, after the directories the walk passes through.

Files that an exclude pattern of the configuration matches are dropped, as are files that are
no Kotlin or Java source. The rest are sorted by path, and repeated paths kept once.
-/

namespace ResultLint
namespace Discovery

open Ignore

/-- The ignore files of one directory. -/
structure DirectoryRules where
  ignore : List Rule
  gitignore : List Rule
  exclude : List Rule
  /-- The directory holds a `.git` entry, so a repository starts here. -/
  hasGit : Bool
  deriving Repr, Inhabited

/-- The ignore files of the directory at some names. -/
def DirectoryRules.at (w : Workspace) (names : List String) : DirectoryRules :=
  let read (rel : List String) : List Rule := ((w.bytesAt? (names ++ rel)).map rulesOf).getD []
  { ignore := read [".ignore"]
    gitignore := read [".gitignore"]
    exclude := if w.isDirectoryAt (names ++ [".git"]) then read [".git", "info", "exclude"] else []
    hasGit := (w.entry? (names ++ [".git"])).isSome }

/-- The rules of one directory, with the path it is asked about. -/
abbrev Consulted := DirectoryRules × String

/-- The consulted directories up to and including the first that starts a repository. -/
def withinRepository : List Consulted → List Consulted
  | [] => []
  | c :: rest => if c.1.hasGit then [c] else c :: withinRepository rest

/-- The ruling on an entry, nearest directory first. -/
def ruling (chain : List Consulted) (isDirectory : Bool) : Option Ignore.Verdict :=
  let inRepository := chain.any (·.1.hasGit)
  let first (kind : DirectoryRules → List Rule) (cs : List Consulted) : Option Ignore.Verdict :=
    cs.findSome? fun (r, path) => verdict? (kind r) path isDirectory
  let git := withinRepository chain
  (first DirectoryRules.ignore chain).or
    (if inRepository then (first DirectoryRules.gitignore git).or (first DirectoryRules.exclude git)
     else none)

/-- Whether a walk passes over an entry. `levels` are the directories from the entry's own up
to the top, each with its names, and each is asked about the entry's path from it. -/
def passesOver (levels : List (DirectoryRules × List String)) (names : List String)
    (isDirectory : Bool) : Bool :=
  let name := names.getLast?.getD ""
  match ruling (levels.map fun (r, dir) => (r, "/".intercalate (names.drop dir.length))) isDirectory with
  | some .ignore => true
  | some .keep => false
  | none => name.startsWith "."

/-- The files below a directory that a walk reaches, by the text of their paths. -/
def walkBelow (w : Workspace) :
    Nat → List (DirectoryRules × List String) → String → List String → List String
  | 0, _, _, _ => []
  | fuel + 1, levels, text, names =>
    let levels := (DirectoryRules.at w names, names) :: levels
    (w.children names).flatMap fun (name, e) =>
      let childNames := names ++ [name]
      let isDirectory := e == .directory
      if passesOver levels childNames isDirectory then []
      else if isDirectory then walkBelow w fuel levels (Path.join text name) childNames
      else [Path.join text name]

/-- The directories above the one at some names, nearest first, each with its names. -/
def aboveStart (w : Workspace) (names : List String) : List (DirectoryRules × List String) :=
  (List.range names.length).reverse.map fun k => (DirectoryRules.at w (names.take k), names.take k)

/-- The files a walk from a path reaches: the path itself when it names a file. -/
def walk (w : Workspace) (start : String) : List String :=
  match w.locate start with
  | .inside names directoryOnly =>
    match w.entry? names with
    | some .directory => walkBelow w (w.entries.length + 1) (aboveStart w names) start names
    | some (.file _) => if directoryOnly then [] else [start]
    | none => []
  | _ => []

/-- Sorts paths and keeps one of each run of equal ones, the first. -/
def sortPaths (paths : List String) : List String :=
  let sorted := paths.mergeSort fun a b => !Path.lt b a
  sorted.foldr (fun p acc =>
    match acc with
    | q :: _ => if Path.same p q then p :: acc.tail else p :: acc
    | [] => [p]) []

/-- The source files of a run from a path, by the text of their paths. -/
def sourceFiles (w : Workspace) (c : Config) (path : String) : List String :=
  if w.isFile path then if (Language.ofPath? path).isSome then [path] else []
  else
    let starts := if c.targets.isEmpty then [path] else c.targets.map (Path.join path)
    let found := (starts.flatMap (walk w)).filter fun p =>
      !c.shouldExclude p && (Language.ofPath? p).isSome
    sortPaths found

end Discovery
end ResultLint
