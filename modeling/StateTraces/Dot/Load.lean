import StateTraces.Dot.Journal
import StateTraces.Dot.Reader
import StateTraces.Files.Disk

/-
Reading a graph from a file.
-/

namespace StateTraces.Dot

/-- Why a file gives no graph: it is reported, its bytes are no text, or its path holds a NUL
character. -/
inductive LoadFault where
  | reported (report : Report)
  | undecodable
  | nulCharacter

/-- The document in a file. -/
def load (d : Files.Disk) (path : Files.FilePath) : Except LoadFault Document :=
  match d.read path with
  | .error .nulCharacter => .error .nulCharacter
  | .error fault =>
    .error (.reported (.ofDetails .sourceFile
      { message := "Cannot read graph file: " ++ path.text
        context := { source := path.text }
        cause := fault.cause path.text }))
  | .ok content =>
    match content.lines? with
    | none => .error .undecodable
    | some text => (Document.ofText text).mapError fun f => .reported (f.report path.text)

end StateTraces.Dot
