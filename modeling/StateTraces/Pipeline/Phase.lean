import StateTraces.Dot.Journal
import StateTraces.Dot.Reader
import StateTraces.Enumeration.Journal
import StateTraces.Enumeration.Search
import StateTraces.Pipeline.Notice
import StateTraces.Pipeline.Source

/-
The two phases. Parsing reads the graph of a source. Generating enumerates its traces, keeps the
distinct ones and writes them. What goes wrong with an input becomes an error notice, and the phase
counts as done all the same; only a crash leaves it undone. A negative bound that is too long to be
told is such a crash.
-/

namespace StateTraces.Pipeline

open Files (Disk)

def logger : String := "tracegen.pipeline.phases"

/-- The depths to report, either as a window or as bounds that are checked for every source. -/
inductive Bounds where
  | window (window : DepthWindow)
  | raw (minimum maximum : Int)
  deriving DecidableEq

namespace Bounds

/-- How a refusal of bounds leaves the phase: a negative bound is reported, and nobody handles
anything else. -/
def fault : DepthWindow.Refusal → Source.FileFault
  | .negative bound value => .reported (DepthWindow.negativeBound bound value)
  | refusal => .crash (.unreported refusal)

/-- The window that the bounds stand for. -/
def resolve : Bounds → Except Source.FileFault DepthWindow
  | .window w => .ok w
  | .raw minimum maximum => (DepthWindow.ofBounds minimum maximum).mapError fault

end Bounds

/-- Something that a phase tells: a notice for the user, or a record for the log only. -/
inductive Entry where
  | notice (notice : Notice)
  | log (record : Log.Record)

namespace Entry

def notice? : Entry → Option Notice
  | .notice n => some n
  | .log _ => none

def record : Entry → Log.Record
  | .notice n => n.record
  | .log r => r

end Entry

/-- What a phase did: the tree and the source afterwards, what it told, and the crash that stopped
it if there was one. -/
structure Effect where
  disk : Disk
  source : Source
  entries : List Entry
  crash : Option Crash := none

namespace Source

/-- A notice of a phase about the source. -/
def notice (s : Source) (phase : Phase) (severity : Severity) (text : String) : Entry :=
  .notice { severity, phase := phase.name, source := s.text, text }

/-- An error notice with its report, which names the phase. -/
def failure (s : Source) (phase : Phase) (what : String) (r : Report) : Entry :=
  .notice
    { severity := .error, phase := phase.name, source := s.text, text := s!"{what}: {r.message}"
      report := some { r with context := { r.context with
        phase := r.context.phase.orElse fun _ => some phase.name } } }

/-! ## Parsing -/

/-- The effect of parsing: the graph of the source, or an empty graph and an error. -/
def parse (s : Source) (d : Disk) : Effect :=
  let start := s.notice .parseFile .info "Parsing file"
  let failed (r : Report) : Effect :=
    { disk := d, source := { s with graph := some .empty }
      entries := [start, s.failure .parseFile "Failed to parse file" r] }
  match s.readText d with
  | .error (.crash crash) => { disk := d, source := s, entries := [start], crash }
  | .error (.reported r) => failed r
  | .ok text =>
    match Dot.Document.ofText text with
    | .error fault => failed (fault.report s.text)
    | .ok document =>
      let g := AtomGraph.ofTexts document.graph
      let warning := if g.size = 0 then
        [s.notice .parseFile .warning "Graph has no vertices"] else []
      let parsed := Log.Record.debug logger
        s!"Parsed {s.text}: {g.size} vertices, {g.edgeCount} edges"
      { disk := d, source := { s with graph := some g }
        entries := start :: .log document.record :: warning ++ [.log parsed] }

/-! ## Generating -/

/-- A trace as a line: the labels with blanks between them. -/
def lineOf (trace : List Atom) : String := " ".intercalate (trace.map Atom.shown)

/-- Takes in one event of the enumeration: a new trace is kept and, if wanted, told. -/
def take (showTraces : Bool) (acc : Source × List Entry) (e : Enumeration.Event Atom (List Atom)) :
    Source × List Entry :=
  match e with
  | .result _ trace =>
    let (s, told) := acc
    let line := lineOf trace
    if line ∈ s.traces then acc
    else
      let news := s.notice .generateCombinations .info s!"Generated: {line}"
      (s.addTrace line, if showTraces then news :: told else told)
  | e => (acc.1, e.record?.toList.map .log ++ acc.2)

/-- Enumerates the traces of the source inside a window: the source with the new traces, and what
is told, the last entry first. -/
def collect (s : Source) (window : Option DepthWindow) (showTraces : Bool) :
    Source × List Entry × Enumeration.Tally :=
  let events := Enumeration.traceEvents (s.graph.getD .empty) window
  let r := events.foldl
    (fun (acc : (Source × List Entry) × Enumeration.Tally) e =>
      (take showTraces acc.1 e, acc.2.note e)) ((s, []), {})
  (r.1.1, r.1.2, r.2)

/-- The source without what its graph held. -/
def clearGraph (s : Source) : Source := { s with graph := s.graph.map fun _ => .empty }

/-- The effect of generating: the traces inside the bounds, kept and written, or an error. -/
def generate (s : Source) (bounds : Option Bounds) (showTraces : Bool) (d : Disk) : Effect :=
  let start := s.notice .generateCombinations .info "Generating combinations"
  match bounds.mapM Bounds.resolve with
  | .error (.crash crash) => { disk := d, source := s, entries := [start], crash }
  | .error (.reported r) =>
    { disk := d, source := s.clearGraph
      entries := [start, s.failure .generateCombinations "Invalid depth" r] }
  | .ok window =>
    let (filled, told, tally) := s.collect window showTraces
    let counted := Log.Record.debug logger
      (s!"{s.text}: {tally.combinations} combinations, " ++
        s!"{tally.emitted} traces before deduplication")
    let total := s.notice .generateCombinations .info s!"Generated {filled.traces.length} traces"
    let entries := start :: told.reverse ++ [.log counted, total]
    match filled.write d with
    | .ok (d', target) =>
      { disk := d', source := filled.clearGraph
        entries := entries ++ [.log (filled.written target)] }
    | .error (.reported r) =>
      { disk := d, source := filled.clearGraph
        entries := entries ++ [s.failure .generateCombinations "Failed to write traces" r] }
    | .error (.crash crash) => { disk := d, source := filled, entries, crash }

end Source

end StateTraces.Pipeline
