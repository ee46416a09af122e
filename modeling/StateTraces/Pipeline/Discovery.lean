import StateTraces.Files.Disk
import StateTraces.Files.Pattern
import StateTraces.Log.Record

/-
Discovery of graph files. Relative paths are looked up below every include directory in turn; a file
stands for itself, and a directory for the files right inside it whose names fit the pattern, in
order of their names. Without paths the include directories are taken themselves. Every file is
listed once, where it was found first.
-/

namespace StateTraces.Pipeline

open Files (Disk FilePath)

/-- Where a requested path is looked for. -/
def roots (includes : List FilePath) (path : FilePath) : List FilePath :=
  if path.isAbsolute then [path] else includes.map (·.join path)

/-- The files of a directory whose names fit the pattern. -/
def filesIn (d : Disk) (directory : FilePath) (pattern : String) :
    Except Files.Fault (List FilePath) := do
  let entries := (d.names (← d.locate directory)).map directory.child
  let files ← entries.filterMapM fun entry => do
    match ← d.look? entry with
    | some (.file _) => pure (some entry)
    | _ => pure none
  pure (files.filter fun entry => Files.matchesPattern entry.name pattern)

/-- The files that a candidate stands for. -/
def expand (d : Disk) (pattern : String) (candidate : FilePath) :
    Except Files.Fault (List FilePath) := do
  match ← d.look? candidate with
  | some .directory => filesIn d candidate pattern
  | some (.file _) => pure [candidate]
  | none => pure []

/-- The places to look at, in order. -/
def candidates (paths includes : List FilePath) : List FilePath :=
  if paths.isEmpty then includes else paths.flatMap (roots includes)

/-- The graph files that are found, unless a path is too long to look up. -/
def discover (d : Disk) (paths includes : List FilePath) (pattern : String) :
    Except Files.Fault (List FilePath) := do
  pure ((← (candidates paths includes).mapM (expand d pattern)).flatten.eraseDups)

/-- The warnings about requested paths for which nothing was found; each is named as requested. -/
def missing (requested : List String) (includes found : List FilePath) : List Log.Record :=
  (requested.filter fun path =>
    !found.any fun f => (roots includes (.ofText path)).any f.isUnder).map fun path =>
      .warning "tracegen.pipeline.phases" s!"No graph files found for {path}"

end StateTraces.Pipeline
