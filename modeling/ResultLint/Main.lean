import ResultLint.Run

/-!
# The command line

The program reads its working directory into a workspace, runs the command line on it,
prints what the run prints, and writes back the files the run changed. A failed run prints
its message and ends with code 1.
-/

/-- Runs the command line in the working directory. -/
def main (args : List String) : IO UInt32 := do
  let cwd ← IO.currentDir
  let rec load : Nat → List String → IO (List (List String × ResultLint.Entry))
    | 0, _ => pure []
    | fuel + 1, names => do
      let dir := names.foldl (fun dir (n : String) => dir / n) cwd
      let found ← dir.readDir
      let mut entries : List (List String × ResultLint.Entry) := []
      for e in found do
        let here := names ++ [e.fileName]
        if ← (dir / e.fileName).isDir then
          entries := entries ++ [(here, ResultLint.Entry.directory)] ++ (← load fuel here)
        else
          let bytes ← IO.FS.readBinFile (dir / e.fileName)
          entries := entries ++ [(here, ResultLint.Entry.file bytes.toList)]
      pure entries
  let before : ResultLint.Workspace := { entries := ← load 256 [] }
  match ResultLint.run before args with
  | .error f =>
    IO.eprintln ("Error: " ++ f.message)
    pure 1
  | .ok o =>
    IO.print o.stdout
    IO.eprint o.stderr
    for (names, bytes) in ResultLint.Workspace.changedFiles before o.workspace do
      IO.FS.writeBinFile (names.foldl (fun dir (n : String) => dir / n) cwd) ⟨bytes.toArray⟩
    pure o.exitCode.toUInt32
