import StateTraces.Json

/-
Where a problem was met: the source, the phase and the position, as far as they are known, and
anything else worth knowing.
-/

namespace StateTraces.Report

/-- The circumstances of a problem. -/
structure Context where
  source : Option String := none
  phase : Option String := none
  line : Option Int := none
  column : Option Int := none
  extra : Table String Json := []
  deriving BEq, Inhabited

namespace Context

/-- The text, unless it is missing or empty. -/
def present? (s : Option String) : Option String := s.filter (· ≠ "")

/-- The source with its position; without a source, the line alone. -/
def position? (c : Context) : Option String :=
  match present? c.source, c.line, c.column with
  | some source, some line, some column => some s!"{source}:{line}:{column}"
  | some source, some line, none => some s!"{source}:{line}"
  | some source, none, _ => some source
  | none, some line, _ => some s!"line {line}"
  | none, none, _ => none

/-- The position and the phase, as far as they are known. -/
def location? (c : Context) : Option String :=
  match c.position?, (present? c.phase).map fun p => s!"phase={p}" with
  | some position, some phase => some s!"{position} > {phase}"
  | some position, none => some position
  | none, phase => phase

def location (c : Context) : String := c.location?.getD "unknown location"

/-- The known parts, by name. -/
def toJson (c : Context) : Json :=
  let text (name : String) (s : Option String) := s.map fun s => (name, Json.str s)
  let number (name : String) (n : Option Int) := n.map fun n => (name, Json.int n)
  .obj ([text "source_path" c.source, text "phase_name" c.phase, number "line" c.line,
    number "column" c.column, some ("extra", .obj c.extra)].filterMap id)

end Context

end StateTraces.Report
