import StateTraces.Log.Scope
import StateTraces.Pipeline.Run

/-
A pipeline at work. The source files that were made are kept in order and every phase remembers which of
them it is processing, so that whoever asks an idle phase for its source file is refused. Phases log inside
a block that names the source and the phase. What stops a phase is raised through its block: the block is
left and the phase is idle again, but the phase does not count as done.
-/

namespace StateTraces.Pipeline

open Files (Disk FilePath)

/-- A source with the phase that it completed last. -/
structure SourceFile where
  source : Source
  last : Option Phase := none
  deriving Inhabited

namespace SourceFile

/-- Marks a phase as done, and as the last one unless it was done before. -/
def markCompleted (f : SourceFile) (phase : Phase) : SourceFile :=
  if phase ∈ f.source.completed then f else { source := f.source.complete phase, last := some phase }

end SourceFile

/-- What a pipeline works with: the session, the context of log records, the position of the file that
each phase is processing, and all files in the order in which they were made. -/
structure Bench where
  session : Session
  scope : Log.Scope := {}
  busy : Phase → Option Nat := fun _ => none
  files : List SourceFile := []

/-- What can be raised on the way. -/
inductive Raised where
  | fault (fault : Source.FileFault)
  | idle (phase : Phase)
  | unknown (position : Nat)

namespace Raised

def kind : Raised → String
  | .fault (.reported r) => r.kind.name
  | .fault (.crash crash) => crash.kind
  | .idle _ => "RuntimeError"
  | .unknown _ => "IndexError"

/-- What is said, where that is of use. -/
def message? : Raised → Option String
  | .fault (.reported r) => some r.message
  | .fault (.crash crash) => crash.message?
  | .idle phase => some phase.idle
  | .unknown _ => none

end Raised

/-- Something done on a bench. What was done before something is raised stays done. -/
abbrev Work := EStateM Raised Bench

namespace Bench

/-- A bench on which nothing has been done yet. -/
def new (disk : Disk) (scope : Log.Scope) : Bench := { session := { disk }, scope }

/-! ## Parts -/

/-- The file at a position. -/
def file (i : Nat) : Work SourceFile := do
  match (← get).files[i]? with
  | some f => pure f
  | none => throw (.unknown i)

/-- Puts a file in its place. -/
def store (i : Nat) (f : SourceFile) : Work Unit := modify fun b => { b with files := b.files.set i f }

/-- The position of the file that a phase is processing. -/
def held (phase : Phase) : Work Nat := do
  match (← get).busy phase with
  | some i => pure i
  | none => throw (.idle phase)

/-- The file that a phase is processing. -/
def sourceFile (phase : Phase) : Work SourceFile := do file (← held phase)

/-- Makes a phase process a file, or none. -/
def hold (phase : Phase) (position : Option Nat) : Work Unit :=
  modify fun b => { b with busy := fun other => if other = phase then position else b.busy other }

/-- Notes what is told in the context of the moment. -/
def tell (entries : List Entry) : Work Unit :=
  modify fun b => { b with session := b.session.tell b.scope.current entries }

/-- Edits the directory. -/
def edit (disk : Disk) : Work Unit := modify fun b => { b with session := { b.session with disk } }

/-- Works inside a block that adds fields to the context. -/
def within {α : Type} (fields : Table String Json) (work : Work α) : Work α := do
  modify fun b => { b with scope := b.scope.enter fields }
  try work finally modify fun b => { b with scope := b.scope.leave }

/-- Raises a crash, if there is one. -/
def raise : Option Crash → Work Unit
  | none => pure ()
  | some crash => throw (.fault (.crash crash))

/-- Gives an answer, or raises the crash that is in its place. -/
def settle {α : Type} : Except Crash α → Work α
  | .ok a => pure a
  | .error crash => throw (.fault (.crash crash))

/-! ## Phases -/

/-- What a phase does with the file that it is processing. -/
def executePhase (p : Pipeline) (phase : Phase) : Work Unit := do
  let i ← held phase
  let f ← file i
  let effect := p.apply phase f.source (← get).session.disk
  edit effect.disk
  tell effect.entries
  store i { f with source := effect.source }
  raise effect.crash

/-- Marks the file at a position. -/
def markCompleted (phase : Phase) (i : Nat) : Work Unit := do
  store i ((← file i).markCompleted phase)

/-- Executes a phase on a file unless it is done. -/
def execute (p : Pipeline) (phase : Phase) (i : Nat) : Work Unit := do
  let f ← file i
  if phase ∈ f.source.completed then
    tell [.log (.debug logger s!"{phase.name} already completed for {f.source.text}")]
  else
    hold phase (some i)
    try
      within [("source", .str f.source.text), ("phase", .str phase.name)] (executePhase p phase)
      markCompleted phase i
    finally hold phase none

/-- The number of errors about the file at a position. -/
def errorCount (i : Nat) : Work Nat := do
  let f ← file i
  pure ((← get).session.errorsFor f.source.text).length

/-- Executes the given phases that are not done, up to one that reports an error. -/
def advance (p : Pipeline) (i : Nat) : List Phase → Work Unit
  | [] => pure ()
  | phase :: phases => do
    let f ← file i
    if phase ∈ f.source.completed then advance p i phases
    else
      let before ← errorCount i
      execute p phase i
      let after ← errorCount i
      if before < after then pure () else advance p i phases

/-! ## Steps -/

/-- Makes a file; it stands behind all others. -/
def make (path : FilePath) (suffix : String) : Work Nat :=
  modifyGet fun b => (b.files.length, { b with files := b.files ++ [{ source := { path, suffix } }] })

/-- Processes a file. -/
def process (p : Pipeline) (i : Nat) : Work Outcome := do
  advance p i Phase.all
  let f ← file i
  settle (outcome f.source (← get).session)

/-- Makes and processes a file for every path. -/
def run (p : Pipeline) : List FilePath → Work (List Outcome)
  | [] => pure []
  | path :: paths => do
    let i ← make path p.suffix
    let o ← process p i
    return o :: (← run p paths)

/-- Records a trace of a file; tells whether it is new. -/
def addTrace (i : Nat) (trace : String) : Work Bool := do
  let f ← file i
  store i { f with source := f.source.addTrace trace }
  return trace ∉ f.source.traces

/-- Writes the traces of a file. -/
def write (i : Nat) : Work FilePath := do
  let f ← file i
  match f.source.write (← get).session.disk with
  | .ok (disk, target) =>
    edit disk
    tell [.log (f.source.written target)]
    pure target
  | .error fault => throw (.fault fault)

/-- Replaces the graph of a file. -/
def setGraph (i : Nat) (graph : Option AtomGraph) : Work Unit := do
  let f ← file i
  store i { f with source := { f.source with graph } }

/-- Something that is done with a pipeline from outside. -/
inductive Step where
  | make (path : FilePath) (suffix : String)
  | execute (phase : Phase) (i : Nat)
  | process (i : Nat)
  | run (paths : List FilePath)
  | addTrace (i : Nat) (trace : String)
  | write (i : Nat)
  | setGraph (i : Nat) (graph : Option AtomGraph)
  | notify (notice : Notice)
  | edit (disk : Disk)

/-- The work of a step. -/
def Step.work (p : Pipeline) : Step → Work Unit
  | .make path suffix => discard (Bench.make path suffix)
  | .execute phase i => Bench.execute p phase i
  | .process i => discard (Bench.process p i)
  | .run paths => discard (Bench.run p paths)
  | .addTrace i trace => discard (Bench.addTrace i trace)
  | .write i => discard (Bench.write i)
  | .setGraph i graph => Bench.setGraph i graph
  | .notify notice => Bench.tell [.notice notice]
  | .edit disk => Bench.edit disk

end Bench

end StateTraces.Pipeline
