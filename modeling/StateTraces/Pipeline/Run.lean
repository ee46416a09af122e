import StateTraces.Pipeline.Phase

/-
Runs of the pipeline. A source goes through the phases that it has not done yet, in order, and stops
after a phase that reported an error for it. Every phase logs in a context that names the source and
the phase.
-/

namespace StateTraces

open Files (Disk FilePath)

/-- How a pipeline works: which depths it reports, whether it tells every new trace, and the suffix
of its traces files. -/
structure Pipeline where
  bounds : Option Pipeline.Bounds := none
  showTraces : Bool := false
  suffix : String := ".traces"

namespace Pipeline

/-- The tree, all notices so far and the log so far. -/
structure Session where
  disk : Disk
  notices : List Notice := []
  log : List Log.Record := []
  deriving Inhabited

namespace Session

def errorsFor (session : Session) (source : String) : List Notice :=
  Pipeline.errorsFor source session.notices

/-- Notes what was told in a context. -/
def tell (session : Session) (context : Table String Json) (entries : List Entry) : Session :=
  { session with
    notices := session.notices ++ entries.filterMap Entry.notice?
    log := session.log ++ entries.map fun e => { e.record with context } }

end Session

/-- The outcome of processing one source. -/
structure Outcome where
  path : FilePath
  traces : List String
  tracesPath : Option FilePath
  errors : List Notice

namespace Outcome

def ok (o : Outcome) : Bool := o.errors.isEmpty

def members (o : Outcome) (withTraces : Bool) : Table String Json :=
  [("path", .str o.path.text), ("trace_count", .int o.traces.length),
    ("traces_path", .ofText? (o.tracesPath.map FilePath.text))] ++
  (if withTraces then [("traces", .arr (o.traces.map .str))] else []) ++
  [("errors", .arr (o.errors.map Notice.toJson))]

end Outcome

/-- A new source of the pipeline. -/
def source (p : Pipeline) (path : FilePath) : Source := { path, suffix := p.suffix }

/-- The effect of a phase. -/
def apply (p : Pipeline) (phase : Phase) (s : Source) (d : Disk) : Effect :=
  match phase with
  | .parseFile => s.parse d
  | .generateCombinations => s.generate p.bounds p.showTraces d

/-- Executes a phase on a source unless it is done. -/
def execute (p : Pipeline) (phase : Phase) (s : Source) (session : Session) :
    Session × Source × Option Crash :=
  if phase ∈ s.completed then
    let skipped := Log.Record.debug logger s!"{phase.name} already completed for {s.text}"
    (session.tell [] [.log skipped], s, none)
  else
    let effect := p.apply phase s session.disk
    let context := [("source", Json.str s.text), ("phase", .str phase.name)]
    let session := { session with disk := effect.disk }.tell context effect.entries
    (session, if effect.crash.isNone then effect.source.complete phase else effect.source,
      effect.crash)

/-- Executes the given phases that are not done, up to one that reports an error or crashes. -/
def advance (p : Pipeline) (s : Source) (session : Session) :
    List Phase → Session × Source × Option Crash
  | [] => (session, s, none)
  | phase :: phases =>
    if phase ∈ s.completed then advance p s session phases
    else
      let (session', s', crash) := p.execute phase s session
      let failed := (session.errorsFor s.text).length < (session'.errorsFor s.text).length
      if crash.isSome ∨ failed then (session', s', crash) else advance p s' session' phases

/-- The outcome for a source after its phases. The traces file counts as written if generating is
done and no error was ever reported for the source. -/
def outcome (s : Source) (session : Session) : Except Crash Outcome := do
  let errors := session.errorsFor s.text
  let written := .generateCombinations ∈ s.completed ∧ errors.isEmpty
  let tracesPath ← if written then (s.tracesPath.mapError Crash.unnameable).map some else pure none
  pure { path := s.path, traces := s.traces, tracesPath, errors }

/-- Processes a source. -/
def process (p : Pipeline) (s : Source) (session : Session) :
    Session × Source × Except Crash Outcome :=
  match p.advance s session Phase.all with
  | (session, s, some crash) => (session, s, .error crash)
  | (session, s, none) => (session, s, outcome s session)

/-- Processes a new source for every path, up to a crash. -/
def run (p : Pipeline) (session : Session) : List FilePath → Session × Except Crash (List Outcome)
  | [] => (session, .ok [])
  | path :: paths =>
    match p.process (p.source path) session with
    | (session, _, .error crash) => (session, .error crash)
    | (session, _, .ok o) =>
      let (session, rest) := run p session paths
      (session, rest.map (o :: ·))

end Pipeline

end StateTraces
