import StateTraces.Cause
import StateTraces.DepthWindow
import StateTraces.Report.Code
import StateTraces.Report.Context

/-
Problem reports: what is told about a problem, with a code, the circumstances, the cause and what
can be done about it. Each kind of report has a message, a code and suggestions of its own, which
count where none are given.
-/

namespace StateTraces

namespace Report

/-- The kinds of reports, with what only that kind knows. -/
inductive Kind where
  | general
  | invalidDepth (bound : DepthWindow.Bound) (value : Int)
  | invalidConfig (field : Option String)
  | unreadable
  | malformed (line column : Option Int)
  | sourceFile
  | traceWrite
  deriving DecidableEq, Repr, Inhabited

namespace Kind

def name : Kind → String
  | .general => "TraceGenError"
  | .invalidDepth .. => "InvalidDepthError"
  | .invalidConfig .. => "ConfigValidationError"
  | .unreadable => "ParseError"
  | .malformed .. => "DotSyntaxError"
  | .sourceFile => "SourceFileError"
  | .traceWrite => "TraceWriteError"

/-- The code of a report that is given none. -/
def code : Kind → Code
  | .general => .unknown
  | .invalidDepth .minimum _ => .invalidMinimumDepth
  | .invalidDepth .maximum _ => .invalidMaximumDepth
  | .invalidConfig .. => .invalidConfig
  | .unreadable => .parseFailed
  | .malformed .. => .syntaxError
  | .sourceFile => .sourceNotFound
  | .traceWrite => .traceWriteFailed

/-- The message of a report that is given none. -/
def message : Kind → String
  | .general => "An unexpected error occurred"
  | .invalidDepth bound value => (DepthWindow.Refusal.negative bound value).message
  | .invalidConfig .. => "Invalid configuration"
  | .unreadable => "Failed to parse graph description"
  | .malformed .. => "DOT syntax error"
  | .sourceFile => "Source file not found"
  | .traceWrite => "Failed to write traces file"

/-- The suggestions of a report that is given none. -/
def suggestions : Kind → List String
  | .general => []
  | .invalidDepth .. =>
    ["Depth bounds count expansion levels from the root and start at 1",
      "Omit both --min and --max to enumerate without a depth window"]
  | .invalidConfig .. =>
    ["Check tracegen.yaml for typos in option names",
      "Environment variables use the TRACEGEN_ prefix"]
  | .unreadable | .malformed .. =>
    ["Render the file with 'dot -Tsvg' to check that Graphviz accepts it"]
  | .sourceFile => ["Check the path, or the --include directories used for discovery"]
  | .traceWrite => ["Make sure the directory holding the graph file is writable"]

end Kind

/-- What may be given for a report. -/
structure Details where
  message : Option String := none
  code : Option Code := none
  context : Context := {}
  cause : Option Cause := none
  suggestions : Option (List String) := none
  extra : Table String Json := []

end Report

/-- A problem, ready to be told. -/
structure Report where
  kind : Report.Kind
  code : Report.Code
  message : String
  context : Report.Context
  cause : Option Cause
  suggestions : List String
  deriving BEq, Inhabited

namespace Report

/-- The circumstances as a kind completes them: a malformed text sets the position, a bad setting
is named. -/
def Kind.complete (kind : Kind) (context : Context) : Context :=
  match kind with
  | .malformed line column => { context with line, column }
  | .invalidConfig (some field) => { context with extra := context.extra.set "field" (.str field) }
  | _ => context

/-- The report of a kind with the given details; an empty message counts as none. -/
def ofDetails (kind : Kind) (d : Details) : Report where
  kind := kind
  code := d.code.getD kind.code
  message := (Context.present? d.message).getD kind.message
  context := kind.complete { d.context with extra := d.context.extra.merge d.extra }
  cause := d.cause
  suggestions := d.suggestions.getD kind.suggestions

/-- The report in one line. -/
def text (r : Report) : String :=
  s!"[{r.code.text}] {r.message}" ++ (r.context.location?.elim "" fun l => s!" | at {l}")

/-- The report in full, line by line. -/
def verbose (r : Report) : String :=
  let head := s!"Error [{r.code.text}]: {r.message}"
  let location := r.context.location?.toList.map fun l => s!"Location: {l}"
  let cause := r.cause.toList.map fun c => s!"Caused by: {c.kind}: {c.text}"
  let suggestions :=
    if r.suggestions.isEmpty then []
    else "" :: "Suggestions:" :: r.suggestions.map fun s => s!"  - {s}"
  "\n".intercalate (head :: location ++ cause ++ suggestions)

def toJson (r : Report) : Json :=
  .obj [("error_code", .str r.code.text), ("error_type", .str r.kind.name),
    ("message", .str r.message), ("suggestions", .arr (r.suggestions.map .str)),
    ("context", r.context.toJson), ("cause", .ofText? (r.cause.map Cause.text))]

end Report

/-- The report of a negative bound. -/
def DepthWindow.negativeBound (bound : DepthWindow.Bound) (value : Int) : Report :=
  .ofDetails (.invalidDepth bound value) {}

end StateTraces
