import StateTraces.Cli.Summary
import StateTraces.Config.Load
import StateTraces.Dot.Load
import StateTraces.Log.Sink
import StateTraces.Pipeline.Discovery

/-
The commands of the program on a directory tree. Settings that are reported end with code two;
everything else that goes wrong in a command ends with code one. Log records go to the error stream,
from warnings up or, if wanted, all of them.
-/

namespace StateTraces.Cli

open Files (Disk FilePath)

/-! ## Commands -/

/-- The lines that records add to a stream. -/
def logText (sink : Log.Sink) (records : List Log.Record) : String :=
  String.join ((records.flatMap sink.lines).map (· ++ "\n"))

def versionText : String := "tracegen 1.0.0"

/-- The out-edges of every vertex with their labels. -/
def graphJson (g : Graph String String) : Json :=
  .obj (g.rows.map fun r => (r.1, .obj (r.2.map fun e => (e.1, .str e.2))))

/-- Prints the graph of a file. -/
def render (t : Terminal) (d : Disk) (sink : Log.Sink) (format : Format) (file : String) : Result :=
  match Dot.load d (.ofText file) with
  | .error .undecodable => .failed d "UnicodeDecodeError"
  | .error .nulCharacter => .failed d Files.Fault.nulCharacter.name
  | .error (.reported r) => { code := 1, err := t.echo r.verbose, disk := d }
  | .ok document =>
    let out := match format with
      | .text => document.graph.listing id
      | .json => (graphJson document.graph).page .ascii
    { code := 0, out := t.echo out, err := logText sink [document.record], disk := d }

/-- The depths to report: the bounds of the command line, or else those of the settings, with what
there is to log about them. There are none if only one bound is on the command line. -/
def boundsOf? (settings : Config.Settings) (c : Choices) :
    Option (Option Pipeline.Bounds × List Log.Record) :=
  match c.minimum, c.maximum with
  | some a, some b => some (some (.raw a b), [])
  | none, none => some (settings.window?.map .window, settings.loneDepth?.toList)
  | _, _ => none

/-- The directories to search: those of the command line, or else those of the settings; the
working directory if there are none. -/
def includesOf (settings : Config.Settings) (c : Choices) : List FilePath :=
  let given := match c.includePaths with
    | none | some "" => settings.includePaths
    | some s => Config.pathsOf s
  (if given = [] then ["."] else given).map .ofText

/-- Writes the traces files of all graph files found. -/
def generate (tools : Tools) (d : Disk) (settings : Config.Settings) (sink : Log.Sink) (c : Choices)
    (files : List String) : Result :=
  match boundsOf? settings c with
  | none => tools.usageError d .generate "--min and --max must be given together"
  | some (bounds, log) =>
    let includes := includesOf settings c
    match Pipeline.discover d (files.map .ofText) includes settings.filePattern with
    | .error fault => { Result.failed d fault.name with err := logText sink log }
    | .ok [] =>
      let log := log ++ Pipeline.missing files includes []
      { code := 1, err := logText sink log ++ tools.terminal.echo "No graph files found.", disk := d }
    | .ok found =>
      let log := log ++ Pipeline.missing files includes found
      let showTraces := c.showTraces || settings.showTraces
      let p : Pipeline := { bounds, showTraces, suffix := settings.tracesSuffix }
      let (session, outcomes) := p.run { disk := d, log } found
      let err := logText sink session.log
      match outcomes with
      | .error crash => { code := 1, err, disk := session.disk, failure := crash.kind }
      | .ok outcomes =>
        let told := tools.terminal.tell c.format showTraces bounds outcomes
        if told.complete then
          { code := if outcomes.all (·.ok) then 0 else 1, out := told.text, err
            disk := session.disk }
        else { code := 1, out := told.text, err, disk := session.disk, failure := "ValueError" }

/-! ## Command lines -/

/-- Where log records go: to the error stream, all of them if wanted. -/
def sinkOf (settings : Config.Settings) : Log.Sink where
  level := if settings.verbose then .debug else .warning
  layout := if settings.jsonLogs then .json false else .human false

/-- The settings of a run, with what is chosen for all commands. -/
def settingsOf (lib : Config.Library) (d : Disk) (env : Environment) (c : Common) :
    Except Config.Fault Config.Settings := do
  let s ← (lib.load d env (c.config.map .ofText)).1
  pure { s with verbose := s.verbose || c.verbose, jsonLogs := s.jsonLogs || c.jsonLogs }

/-- The end of a run whose settings are at fault. -/
def badSettings (t : Terminal) (d : Disk) : Config.Fault → Result
  | .refused (.reported r) => { code := 2, err := t.echo r.verbose, disk := d }
  | fault => .failed d fault.name

/-- Does what is asked for. -/
def Request.perform (tools : Tools) (d : Disk) (settings : Config.Settings) : Request → Result
  | .generate c files => Cli.generate tools d settings (sinkOf settings) c files
  | .render format file => Cli.render tools.terminal d (sinkOf settings) format file
  | .version => { code := 0, out := tools.terminal.echo versionText, disk := d }

/-- Runs a command line on a tree, in an environment. The settings are loaded before the arguments
of the command are read. -/
def runWith (lib : Config.Library) (tools : Tools) (d : Disk) (env : Environment)
    (args : List String) : Result :=
  match tools.group d args with
  | .error result => result
  | .ok (c, command, rest) =>
    match settingsOf lib d env c with
    | .error fault => badSettings tools.terminal d fault
    | .ok settings =>
      match tools.own d command rest with
      | .error result => result
      | .ok request => request.perform tools d settings

end StateTraces.Cli
