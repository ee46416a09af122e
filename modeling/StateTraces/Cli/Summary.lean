import StateTraces.Cli.Tools
import StateTraces.Json.Printer
import StateTraces.Pipeline.Run

/-
What is told about a run of the pipeline: as a table for people, with a line per source, or as a
JSON document. Bounds that are too long cannot be told.
-/

namespace StateTraces.Cli

open Pipeline (Bounds Outcome)

def check : String := "✓"

def cross : String := "✗"

/-- Writes the bounds as they were given, for people. -/
def boundsText? : Option Bounds → Option String
  | none => some "unbounded"
  | some (.window w) => DepthWindow.bracketed? w.minimum w.maximum
  | some (.raw a b) => DepthWindow.bracketed? a b

/-- The bounds as they were given, as a pair. -/
def boundsJson : Option Bounds → Json
  | none => .null
  | some (.window w) => .arr [.int w.minimum, .int w.maximum]
  | some (.raw a b) => .arr [.int a, .int b]

/-- What was written to the output, and whether that is all. -/
structure Output where
  text : String
  complete : Bool := true

/-! ## For people -/

namespace Terminal

variable (t : Terminal)

def error (message : String) : String := t.print s!"[red]{cross}[/red] {t.escape message}"

def success (message : String) : String := t.print s!"[green]{check}[/green] {t.escape message}"

/-- The traces of a source, below its path; however long, a trace stays on its line. -/
def traces (o : Outcome) : String :=
  String.join (t.print s!"[bold]{t.escape o.path.text}[/bold]" ::
    o.traces.map fun trace => t.printWhole ("  " ++ t.escape trace))

/-- The columns of the table. -/
def columns : List Column :=
  [{ heading := "Status", fixed := some 6 }, { heading := "Source", least := 20 },
    { heading := "Traces" }, { heading := "Written to" }]

/-- The row of a source. -/
def row (o : Outcome) : List String :=
  [if o.ok then s!"[green]{check}[/green]" else s!"[red]{cross}[/red]", t.escape o.path.text,
    s!"{o.traces.length}", o.tracesPath.elim "-" fun p => t.escape p.text]

/-- The table of a run under its title, then its errors. -/
def summary (outcomes : List Outcome) (window : String) : String :=
  let count := (outcomes.flatMap (·.traces)).length
  let title := s!"{outcomes.length} file(s), {count} trace(s), depth {window}"
  let errors := outcomes.flatMap fun o => o.errors.map fun n => t.error n.line
  t.panel s!"[bold]{t.escape title}[/bold]" columns (outcomes.map t.row) ++ String.join errors

/-- All that is told to people about a run. -/
def runText (showTraces : Bool) (bounds : Option Bounds) (outcomes : List Outcome) : Output :=
  let written := (outcomes.filter (·.tracesPath.isSome)).length
  let traces := if showTraces then String.join (outcomes.map t.traces) else ""
  match boundsText? bounds with
  | none => { text := traces, complete := false }
  | some window =>
    { text := traces ++ t.summary outcomes window ++
        if outcomes.all (·.ok) then t.success s!"Wrote {written} traces file(s)" else "" }

end Terminal

/-! ## As a document -/

/-- The document about a run. -/
def runJson (showTraces : Bool) (bounds : Option Bounds) (outcomes : List Outcome) : Json :=
  .obj [("depth_window", boundsJson bounds),
    ("files", .arr (outcomes.map fun o => .obj (o.members showTraces)))]

/-- What is told about a run. -/
def Terminal.tell (t : Terminal) (format : Format) (showTraces : Bool) (bounds : Option Bounds)
    (outcomes : List Outcome) : Output :=
  match format with
  | .text => t.runText showTraces bounds outcomes
  | .json =>
    match (runJson showTraces bounds outcomes).page? .ascii with
    | some page => { text := t.echo page }
    | none => { text := "", complete := false }

end StateTraces.Cli
