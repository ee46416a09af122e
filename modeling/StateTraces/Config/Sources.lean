import StateTraces.Config.Conversion
import StateTraces.Config.EnvFile
import StateTraces.Config.Lookup
import StateTraces.Files.Disk
import StateTraces.Json.Reader

/-
The usual sources of values for settings, and how settings are made of them. Values that are handed
over count most, then environment variables, then files of bindings (the file `.env` of the working
directory unless other files are asked for), then directories with a file for each variable. A
variable holds a text or, for a list, JSON. Settings are checked in their order: a report ends the
checks, and values of a wrong kind are collected.
-/

namespace StateTraces.Config

open Files (Disk FilePath)

/-- The values that one source has for settings. -/
abbrev Given := Table Field Value

namespace Given

/-- The value that the text of a variable sets; for a list, JSON without a value sets none. -/
def ofText (l : Lookup) (f : Field) (s : String) : Except Fault (Option Value) :=
  if l.nothing = some s then .ok (some .null)
  else match f with
    | .includePaths =>
      match Json.read? s with
      | none => .error .unusable
      | some .null => .ok none
      | some j =>
        if (Value.ofJson j).isWritable then .ok (some (.ofJson j)) else .error .unusable
    | _ => .ok (some (.text s))

/-- The values that are named like settings. -/
def ofNames (values : Table String Value) : Given :=
  Field.all.filterMap fun f => (values.get? f.name).map (f, ·)

/-- The values of the settings for which there is a text. -/
def ofTexts (l : Lookup) (text? : String → Except Fault (Option String)) : Except Fault Given := do
  let rows ← Field.all.mapM fun f => do
    match l.variableName? f with
    | none => throw .unusable
    | some name =>
      match ← text? name with
      | some s => return (← ofText l f s).map (f, ·)
      | none => pure none
  pure (rows.filterMap id)

/-- The values that variables set. Where the directories to search have no variable, variables that
name parts of them make a table. -/
def ofVariables (l : Lookup) (vars : Variables) : Except Fault Given := do
  let known := l.known vars
  let given ← ofTexts l fun name => .ok ((known.get? name).join)
  let parts := ((l.variableName? .includePaths).map (l.parts known)).getD []
  if parts.isEmpty ∨ (given.get? .includePaths).isSome then pure given
  else pure (given.set .includePaths (.table parts))

/-! ## Files -/

/-- A path that is a text. -/
def pathOf : Value → Except Fault FilePath
  | .text s => .ok (.ofText s)
  | _ => .error .noText

/-- The variables of a file of bindings, if it is there. -/
def fileVariables (l : Lookup) (d : Disk) (env : Environment) (path : FilePath) :
    Except Fault Variables := do
  match d.look? path with
  | .error fault => throw (.unreadable fault)
  | .ok (some (.file content)) =>
    match l.writing with
    | .known encoding =>
      let text ← (content.linesIn? encoding).elim (throw .undecodable) pure
      pure (EnvFile.read env text)
    | .unknown => throw .unknownWriting
    | .noName => throw .noText
  | .ok _ => pure []

/-- The variables of all files of bindings; a later file counts more. -/
def allFileVariables (l : Lookup) (d : Disk) (env : Environment) : Except Fault Variables :=
  match l.files with
  | none => .error .noText
  | some paths => paths.foldlM (fun vars path => do
      pure (vars.merge (l.known (← fileVariables l d env (← pathOf path))))) []

/-- The text of the file of a variable, in the last directory that has one; blanks around it do not
count. -/
def secret? (l : Lookup) (d : Disk) (directories : List FilePath) (name : String) :
    Except Fault (Option String) :=
  let matching (directory : FilePath) : Option Files.Kind := do
    let loc ← (d.locate directory).toOption
    let entry ← (d.names loc).find? fun n => l.key n == name
    (d.find (directory.child entry)).toOption
  match directories.reverse.findSome? fun directory => (matching directory).bind fun
      | .file content => some content
      | .directory => none with
  | none => .ok none
  | some content => content.lines?.elim (.error .unusable) fun s => .ok (some (Text.trimmed s))

/-- The values that directories set, each of which has to be one if it is there at all. -/
def ofDirectories (l : Lookup) (d : Disk) : Except Fault Given := do
  let paths ← l.directories.elim (throw .noText) (·.mapM pathOf)
  let present ← paths.filterMapM fun path =>
    match d.look? path with
    | .error fault => .error (.unreadable fault)
    | .ok kind => .ok (kind.map (path, ·))
  if present.isEmpty then pure []
  else do
    let directories ← present.mapM fun
      | (path, .directory) => pure path
      | _ => throw .unusable
    ofTexts l (secret? l d directories)

end Given

/-- What is found, origin by origin. -/
def Found.ofGiven (keyword environment envFile secrets : Given) : Found
  | .keyword => keyword.get?
  | .environment => environment.get?
  | .envFile => envFile.get?
  | .secrets => secrets.get?

/-- The values of all sources. -/
def Found.gather (d : Disk) (env : Environment) (values : Table String Value) : Except Fault Found := do
  let l := Lookup.ofValues values
  let inFiles ← Given.allFileVariables l d env
  let named ← Given.ofVariables l (env.map fun r => (r.1, some r.2))
  let file ← Given.ofVariables l inFiles
  let secrets ← Given.ofDirectories l d
  pure (.ofGiven (.ofNames values) named file secrets)

/-- The value of a setting in the first source that has one. -/
def Found.first (found : Found) (f : Field) : Option Value :=
  Origin.ranked.findSome? (found · f)

/-! ## Settings -/

def Checked.misfits {α : Type} : Checked α → List Misfit
  | .ok _ => []
  | .error misfits => misfits

namespace Settings

/-- The settings with the given values; what is not given has its default. -/
def ofValues (given : Field → Option Value) : Except Refusal Settings := do
  let defaults : Settings := {}
  let depth (field : Field) := (given field).elim (.ok (.ok none)) (readDepth field)
  let read {α : Type} (field : Field) (default : α) (check : Value → Checked α) :=
    (given field).elim (.ok default) check
  let minDepth ← depth .minDepth
  let maxDepth ← depth .maxDepth
  let suffix ← (given .tracesSuffix).elim (.ok (.ok defaults.tracesSuffix))
    Conversions.usual.readSuffix
  let paths := read .includePaths defaults.includePaths Conversions.usual.readIncludePaths
  let pattern := read .filePattern defaults.filePattern (readText .filePattern)
  let truth (field : Field) := read field false (readTruth field)
  match minDepth, maxDepth, paths, pattern, suffix, truth .showTraces, truth .verbose,
    truth .jsonLogs with
  | .ok minDepth, .ok maxDepth, .ok includePaths, .ok filePattern, .ok tracesSuffix,
    .ok showTraces, .ok verbose, .ok jsonLogs =>
    pure { minDepth, maxDepth, includePaths, filePattern, tracesSuffix, showTraces, verbose
           jsonLogs }
  | minDepth, maxDepth, paths, pattern, suffix, showTraces, verbose, jsonLogs =>
    throw (.misfits (minDepth.misfits ++ maxDepth.misfits ++ paths.misfits ++ pattern.misfits ++
      suffix.misfits ++ showTraces.misfits ++ verbose.misfits ++ jsonLogs.misfits))

/-- The settings with values handed over, in an environment. -/
def make (d : Disk) (env : Environment) (values : Table String Value) : Except Fault Settings := do
  (ofValues (← Found.gather d env values).first).mapError .refused

end Settings

end StateTraces.Config
