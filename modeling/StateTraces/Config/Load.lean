import StateTraces.Config.Library

/-
Loading the settings: a settings file in YAML, over whose values six environment variables are put.
The result is handed over as values, so the file outranks all other variables. A settings file that
is not there counts as empty, with a warning.
-/

namespace StateTraces.Config

open Files (Disk FilePath)

/-- The rows of a settings file, which has to hold a table; nothing at all counts as empty. -/
def rowsOf (source : String) (v : Value) : Except Report (List (Value × Value)) :=
  match v with
  | .table rows => .ok rows
  | v =>
    if v.isVoid then .ok []
    else .error (.ofDetails (.invalidConfig none)
      { message := "Configuration must be a YAML mapping, got " ++ v.kindName
        context := { source } })

/-- The rows of the settings file at a path, and the warning if there is none. -/
def readFile (lib : Library) (d : Disk) (path : FilePath) :
    Except Fault (List (Value × Value) × List Log.Record) := do
  match d.find path with
  | .error .nameTooLong => throw (.unreadable .nameTooLong)
  | .error _ =>
    pure ([], [.warning Settings.logger
      s!"Config file {path.text} not found, using defaults"])
  | .ok .directory => throw (.unreadable .isDirectory)
  | .ok (.file content) =>
    let text ← content.lines?.elim (throw .undecodable) pure
    let v ← (lib.readYaml text).mapError .malformed
    let rows ← (rowsOf path.text v).mapError fun r => .refused (.reported r)
    pure (rows, [])

/-- The value that an environment variable puts over the settings file, if it has one. -/
def override? (env : Environment) (f : Field) : Option Value :=
  match f with
  | .minDepth => (env.get? "TRACEGEN_MIN_DEPTH").map .text
  | .maxDepth => (env.get? "TRACEGEN_MAX_DEPTH").map .text
  | .includePaths => (env.get? "TRACEGEN_INCLUDE").map .text
  | .showTraces => (env.get? "TRACEGEN_SHOW_TRACES").map (.bool ∘ Environment.isConsent)
  | .verbose => (env.get? "TRACEGEN_VERBOSE").map (.bool ∘ Environment.isConsent)
  | .jsonLogs => (env.get? "TRACEGEN_JSON_LOGS").map (.bool ∘ Environment.isConsent)
  | .filePattern | .tracesSuffix => none

/-- The values that the environment puts over the settings file. -/
def overrides (env : Environment) : Table String Value :=
  Field.all.filterMap fun f => (override? env f).map (f.name, ·)

/-- The rows as named values; every key has to be a text. -/
def named (rows : List (Value × Value)) : Except Fault (Table String Value) :=
  rows.mapM fun
    | (.text k, v) => pure (k, v)
    | _ => throw .noText

namespace Library

/-- The settings for the rows of a settings file, in an environment. -/
def ofRows (lib : Library) (d : Disk) (env : Environment) (rows : List (Value × Value)) :
    Except Fault Settings := do
  lib.make d env ((← named rows).merge (overrides env))

/-- The settings with a settings file, if one is named, and what was logged on the way. -/
def load (lib : Library) (d : Disk) (env : Environment) (path : Option FilePath) :
    Except Fault Settings × List Log.Record :=
  match path.elim (.ok ([], [])) (readFile lib d) with
  | .error fault => (.error fault, [])
  | .ok (rows, log) => (lib.ofRows d env rows, log)

end Library

namespace Fault

/-- The name of the fault's kind, for those that are not reported. -/
def name : Fault → String
  | .refused (.reported r) => r.kind.name
  | .refused .infinite => "OverflowError"
  | .refused (.misfits _) => "ValidationError"
  | .unusable => "SettingsError"
  | .undecodable => "UnicodeDecodeError"
  | .unknownWriting => "LookupError"
  | .noText => "TypeError"
  | .unreadable fault => fault.name
  | .malformed fault => fault.name

/-- What the fault says, where that is of use. -/
def message? : Fault → Option String
  | .refused (.misfits ms) => some ("; ".intercalate (ms.map Misfit.text))
  | .malformed fault => fault.message?
  | _ => none

end Fault

end StateTraces.Config
