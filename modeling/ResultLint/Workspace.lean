/-!
# Workspaces

A workspace is what the command line sees of the directory it runs in: files, each with its
bytes, and directories, each named by the names that lead to it from the working directory.
The working directory itself is the directory with no names.

A path's text is followed part by part as the operating system does. `.` and empty parts stay,
`..` goes up, and a name goes down; every part but the last has to lead to a directory. A
path that ends in a separator or in `.` names a directory only. A path that starts at the root,
or climbs above the working directory, leads outside the workspace, where nothing is known.
-/

namespace ResultLint

/-- What a name in a workspace holds. -/
inductive Entry where
  | file (bytes : List UInt8)
  | directory
  deriving DecidableEq, Repr, Inhabited

/-- The files and directories below a working directory, each by its names from there. -/
structure Workspace where
  entries : List (List String × Entry)
  deriving Repr, Inhabited

/-- Where a path's text leads. -/
inductive Place where
  /-- A spot in the workspace; `directoryOnly` when the text ends in a separator or `.`. -/
  | inside (names : List String) (directoryOnly : Bool)
  /-- Above the working directory, or from the root. -/
  | outside
  /-- Through a part that is no directory. -/
  | blocked
  deriving DecidableEq, Repr, Inhabited

namespace Workspace

/-- The entry at some names; the working directory is always a directory. -/
def entry? (w : Workspace) (names : List String) : Option Entry :=
  if names.isEmpty then some .directory else (w.entries.find? (·.1 == names)).map (·.2)

/-- Whether some names lead to a directory. -/
def isDirectoryAt (w : Workspace) (names : List String) : Bool :=
  w.entry? names == some .directory

/-- Follows the parts of a path from some names. -/
def follow (w : Workspace) : List String → List String → Place
  | here, [] => .inside here true
  | here, [part] =>
    if !w.isDirectoryAt here then .blocked
    else if part == "" || part == "." then .inside here true
    else if part == ".." then
      if here.isEmpty then .outside else .inside here.dropLast true
    else .inside (here ++ [part]) false
  | here, part :: rest =>
    if !w.isDirectoryAt here then .blocked
    else if part == "" || part == "." then w.follow here rest
    else if part == ".." then
      if here.isEmpty then .outside else w.follow here.dropLast rest
    else w.follow (here ++ [part]) rest

/-- Where a path's text leads from the working directory; the empty text leads nowhere. -/
def locate (w : Workspace) (path : String) : Place :=
  if path.isEmpty then .blocked
  else if path.toList.head? = some '/' then .outside
  else w.follow [] (path.splitOn "/")

/-- What a path names, if anything that the workspace knows of. -/
def lookup (w : Workspace) (path : String) : Option Entry :=
  match w.locate path with
  | .inside names directoryOnly =>
    match w.entry? names with
    | some (.file bytes) => if directoryOnly then none else some (.file bytes)
    | e => e
  | _ => none

/-- Whether a path names something. -/
def exists? (w : Workspace) (path : String) : Bool := (w.lookup path).isSome

/-- Whether a path names a file. -/
def isFile (w : Workspace) (path : String) : Bool :=
  match w.lookup path with
  | some (.file _) => true
  | _ => false

/-- Whether a path names a directory. -/
def isDirectory (w : Workspace) (path : String) : Bool := w.lookup path == some .directory

/-- The bytes of the file at some names. -/
def bytesAt? (w : Workspace) (names : List String) : Option (List UInt8) :=
  match w.entry? names with
  | some (.file bytes) => some bytes
  | _ => none

/-- The bytes of the file a path names. -/
def read? (w : Workspace) (path : String) : Option (List UInt8) :=
  match w.locate path with
  | .inside names false => w.bytesAt? names
  | _ => none

/-- The text of the file a path names, when its bytes are UTF-8. -/
def readText? (w : Workspace) (path : String) : Option String :=
  (w.read? path).bind fun bytes => String.fromUTF8? ⟨bytes.toArray⟩

/-- The entries directly inside the directory at some names, by name. -/
def children (w : Workspace) (names : List String) : List (String × Entry) :=
  w.entries.filterMap fun (key, e) =>
    match key.getLast? with
    | some last => if key.dropLast == names then some (last, e) else none
    | none => none

/-- The workspace with a file's bytes set at some names. -/
def setFile (w : Workspace) (names : List String) (bytes : List UInt8) : Workspace :=
  if w.entries.any (·.1 == names) then
    { entries := w.entries.map fun (key, e) => if key == names then (key, .file bytes) else (key, e) }
  else { entries := w.entries ++ [(names, .file bytes)] }

/-- Writes a file at a path, or `none` when the path cannot take a file: it passes through
something that is no directory, names a directory, or ends in a separator. A file outside the
workspace is written where nothing is seen. -/
def write? (w : Workspace) (path : String) (bytes : List UInt8) : Option Workspace :=
  match w.locate path with
  | .inside names false =>
    if w.entry? names == some .directory then none else some (w.setFile names bytes)
  | .outside => some w
  | _ => none

/-- The workspace holding some files and directories, with every directory that holds them. -/
def ofEntries (files : List (List String × List UInt8)) (dirs : List (List String)) : Workspace :=
  let holders (names : List String) : List (List String) :=
    (List.range names.length).map fun k => names.take k
  let folders := (files.flatMap fun f => (holders f.1).filter (!·.isEmpty)) ++
    dirs.flatMap fun d => (holders d).filter (!·.isEmpty) ++ [d]
  let unique := folders.foldl (fun acc d => if acc.contains d then acc else acc ++ [d]) []
  { entries := unique.map (·, Entry.directory) ++ files.map fun (names, bytes) => (names, .file bytes) }

/-- The files that differ between two workspaces: new in the second, or with other bytes. -/
def changedFiles (before after : Workspace) : List (List String × List UInt8) :=
  after.entries.filterMap fun (names, e) =>
    match e with
    | .file bytes => if before.bytesAt? names == some bytes then none else some (names, bytes)
    | .directory => none

end Workspace

end ResultLint
