import StateTraces.Atom
import StateTraces.Files.Disk
import StateTraces.Log.Record

/-
Source files on their way through the pipeline: the graph that was read, the distinct traces in
order of first sight, and the phases that are done. The traces go to the file beside the source
whose name has the traces suffix.
-/

namespace StateTraces.Pipeline

open Files (Disk FilePath)

/-- The phases, in the order in which a source goes through them. -/
inductive Phase where
  | parseFile
  | generateCombinations
  deriving DecidableEq, Repr, Inhabited

namespace Phase

def all : List Phase := [.parseFile, .generateCombinations]

def name : Phase → String
  | .parseFile => "ParseFile"
  | .generateCombinations => "GenerateCombinations"

/-- What is said when the source of an idle phase is asked for. -/
def idle (p : Phase) : String := s!"{p.name} is not processing a source file"

end Phase

/-- A graph file moving through the phases. -/
structure Source where
  path : FilePath
  suffix : String
  graph : Option AtomGraph := none
  traces : List String := []
  completed : List Phase := []
  deriving Inhabited

/-- What stops a run: bytes that are no text, a path that cannot take the suffix, a path with a NUL
character, or bounds that are refused without a report. -/
inductive Crash where
  | undecodable
  | unnameable (fault : FilePath.NameFault)
  | nulCharacter
  | unreported (refusal : DepthWindow.Refusal)

namespace Crash

def kind : Crash → String
  | .undecodable => "UnicodeDecodeError"
  | .unnameable _ | .nulCharacter | .unreported _ => "ValueError"

/-- What the crash says, where that is of use. -/
def message? : Crash → Option String
  | .undecodable => none
  | .unnameable fault => some fault.message
  | .nulCharacter => some Files.Fault.nulCharacter.message
  | .unreported refusal => some refusal.message

end Crash

namespace Source

def text (s : Source) : String := s.path.text

def summary (s : Source) : String :=
  s!"SourceFile({Text.quoted s.text}, traces={s.traces.length})"

/-- The file for the traces. -/
def tracesPath (s : Source) : Except FilePath.NameFault FilePath := s.path.addSuffix s.suffix

/-- Records a trace unless it is there. -/
def addTrace (s : Source) (trace : String) : Source :=
  if trace ∈ s.traces then s else { s with traces := s.traces ++ [trace] }

/-- Marks a phase as done. -/
def complete (s : Source) (p : Phase) : Source :=
  if p ∈ s.completed then s else { s with completed := s.completed ++ [p] }

/-- The first phase that is not done. -/
def nextPhase? (s : Source) : Option Phase := Phase.all.find? (· ∉ s.completed)

/-! ## Files -/

/-- Why a source cannot be read, or its traces cannot be generated or written. -/
inductive FileFault where
  | reported (report : Report)
  | crash (crash : Crash)

/-- The text of the source. -/
def readText (s : Source) (d : Disk) : Except FileFault String :=
  match d.read s.path with
  | .error .nulCharacter => .error (.crash .nulCharacter)
  | .error fault =>
    .error (.reported (.ofDetails .sourceFile
      { message := s!"Cannot read {s.text}: {fault.message}"
        context := { source := s.text }
        cause := fault.cause s.text }))
  | .ok content => content.lines?.elim (.error (.crash .undecodable)) .ok

/-- The traces, each followed by a newline. -/
def traceLines (s : Source) : String := String.join (s.traces.map (· ++ "\n"))

/-- Writes the traces: the directory tree afterwards and the file that was written. -/
def write (s : Source) (d : Disk) : Except FileFault (Disk × FilePath) :=
  match s.tracesPath with
  | .error fault => .error (.crash (.unnameable fault))
  | .ok target =>
    match d.write target (.text s.traceLines) with
    | .ok d => .ok (d, target)
    | .error .nulCharacter => .error (.crash .nulCharacter)
    | .error fault =>
      .error (.reported (.ofDetails .traceWrite
        { message := s!"Cannot write {target.text}: {fault.message}"
          context := { source := s.text }
          cause := fault.cause target.text }))

/-- The record of a written traces file. -/
def written (s : Source) (target : FilePath) : Log.Record :=
  .debug "tracegen.pipeline.source" s!"Wrote {s.traces.length} traces to {target.text}"

end Source

end StateTraces.Pipeline
