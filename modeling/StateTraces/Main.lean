import StateTraces.Cli.Run

/-
The program itself: it takes a snapshot of the working directory, runs the command line on it, and
writes back the files that have changed.
-/

namespace StateTraces.Shell

open Files (Content Disk Location)

/-- The tree with what is at an entry of a directory; what cannot be read is left out. -/
partial def readTree (entry : IO.FS.DirEntry) (loc : Location) (d : Disk) : IO Disk :=
  try
    if ← entry.path.isDir then
      (← entry.path.readDir).foldlM (fun d e => readTree e (loc ++ [e.fileName]) d)
        { d with directories := d.directories ++ [loc] }
    else
      let content := Content.ofBytes (← IO.FS.readBinFile entry.path).toList
      return { d with files := d.files.set loc content }
  catch _ => pure d

/-- The environment variables that settings can come from. -/
def readEnvironment : IO Environment := do
  let names := "TRACEGEN_INCLUDE" :: Config.Field.all.flatMap fun f =>
    ["TRACEGEN_" ++ f.name.toUpper, "tracegen_" ++ f.name]
  let rows ← names.mapM fun name => return (← IO.getEnv name).map (name, ·)
  pure (rows.filterMap id)

/-- Writes the files that differ from those before. -/
def writeBack (before after : Disk) : IO Unit :=
  after.files.forM fun (loc, content) =>
    match content with
    | .text s =>
      if before.files.get? loc = some content then pure ()
      else IO.FS.writeFile ("/".intercalate loc) s
    | .binary _ => pure ()

end StateTraces.Shell

open StateTraces in
/-- Runs a command line in the working directory. -/
def main (args : List String) : IO UInt32 := do
  let before ← Shell.readTree ⟨".", "."⟩ [] {}
  let result := Cli.run before (← Shell.readEnvironment) args
  Shell.writeBack before result.disk
  (← IO.getStdout).putStr result.out
  (← IO.getStderr).putStr result.err
  if let some kind := result.failure then
    (← IO.getStderr).putStrLn s!"Failed: {kind}"
  pure result.code.toUInt32
