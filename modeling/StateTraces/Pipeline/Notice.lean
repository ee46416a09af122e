import StateTraces.Log.Record
import StateTraces.Report

/-
Notices: what the phases of the pipeline tell the user about a source file. Every notice is also
logged, with its phase and the code of its report as data.
-/

namespace StateTraces.Pipeline

/-- How serious a notice is. -/
inductive Severity where
  | info
  | warning
  | error
  deriving DecidableEq, Repr, Inhabited

namespace Severity

def name : Severity → String
  | .info => "info"
  | .warning => "warning"
  | .error => "error"

def level : Severity → Log.Level
  | .info => .info
  | .warning => .warning
  | .error => .error

end Severity

/-- A notice about a source, by a phase, with the report behind it if there is one. -/
structure Notice where
  severity : Severity
  phase : String
  source : String
  text : String
  report : Option Report := none
  deriving BEq, Inhabited

namespace Notice

/-- The notice in one line. -/
def line (n : Notice) : String := s!"{n.source}: {n.text}"

def toJson (n : Notice) : Json :=
  .obj ([("level", .str n.severity.name), ("phase", .str n.phase), ("source", .str n.source),
    ("message", .str n.text)] ++ n.report.toList.map fun r => ("error", r.toJson))

/-- The log record of the notice. -/
def record (n : Notice) : Log.Record where
  level := n.severity.level
  logger := "tracegen.pipeline"
  message := n.line
  data := some (("phase", .str n.phase) ::
    n.report.toList.map fun r => ("error_code", .str r.code.text))

end Notice

/-- All notices by severity: first the informative ones, then the warnings, then the errors. -/
def bySeverity (notices : List Notice) : List Notice :=
  notices.filter (·.severity = .info) ++ notices.filter (·.severity = .warning) ++
    notices.filter (·.severity = .error)

/-- The errors about a source. -/
def errorsFor (source : String) (notices : List Notice) : List Notice :=
  notices.filter fun n => n.severity = .error ∧ n.source = source

end StateTraces.Pipeline
