import StateTraces.Environment
import StateTraces.Json.Literal
import StateTraces.Json.Printer
import StateTraces.Log.Record
import StateTraces.Report
import StateTraces.Text.Split

/-
Where log records go: a stream that takes records of the program's own loggers from a level up and
writes each as a JSON object on one line or as a line for people, in color on a terminal. A record
whose values do not fit its template, or whose context or data hold an integer that is too long to
be written, gets no line at all.
-/

namespace StateTraces.Log

/-- The name above all loggers of the program. -/
def rootName : String := "tracegen"

/-- How records are written. -/
inductive Layout where
  | json (withPlace : Bool)
  | human (colored : Bool)
  deriving DecidableEq, Repr

/-- A stream with the least level it takes. -/
structure Sink where
  level : Level
  layout : Layout
  deriving DecidableEq, Repr

/-- Whether the environment asks for JSON lines. -/
def jsonWanted (env : Environment) : Bool :=
  (env.get? "TRACEGEN_JSON_LOGS").any Environment.isConsent

/-- Whether the environment allows colors. -/
def colorAllowed (env : Environment) : Bool := (env.get? "NO_COLOR").all (· == "")

/-- What a line may say of the moment in which it is written: the time, and the way that a failure took. -/
structure Stamp where
  time : String
  traceback : String

namespace Record

/-- The place of a record that was made by a structured logger, which is not known. -/
def noPlace : Json := .obj [("file", .str ""), ("line", .int 0), ("function", .null)]

/-- A table as an object, unless it is empty. -/
def filled? (t : Table String Json) : Option Json := if t.isEmpty then none else some (.obj t)

/-- What is said about a failure. -/
def failureParts (c : Cause) (stamp? : Option Stamp) : Table String (Option Json) :=
  [("type", some (.str c.kind)), ("message", some (.str c.text)),
    ("traceback", stamp?.map (.str ·.traceback))]

/-- What is said about a record: context, data and failure only where there are any. -/
def parts (r : Record) (withPlace : Bool) (stamp? : Option Stamp) : Table String (Option Json) :=
  [("timestamp", stamp?.map (.str ·.time)), ("level", some (.str (Text.lower r.level.name))),
    ("message", r.text?.map .str), ("logger", some (.str r.logger)),
    ("location", if withPlace then some noPlace else none), ("context", filled? r.context),
    ("data", filled? (r.data.getD [])),
    ("exception", r.cause.map fun c => .obj (Table.present (failureParts c stamp?)))]

/-- The record as an object. -/
def toJson (r : Record) (withPlace : Bool) (stamp? : Option Stamp := none) : Json :=
  .obj (Table.present (r.parts withPlace stamp?))

def jsonLine? (r : Record) (withPlace : Bool) (stamp? : Option Stamp := none) : Option String :=
  r.text?.bind fun _ => (r.toJson withPlace stamp?).line? .unicode

/-- The escape sequence that starts the color of a level; levels without a name have none. -/
def color : Level → String
  | 10 => "\x1b[36m"
  | 20 => "\x1b[32m"
  | 30 => "\x1b[33m"
  | 40 => "\x1b[31m"
  | 50 => "\x1b[35m"
  | _ => ""

/-- The name of a level, filled up to eight characters. -/
def padded (level : Level) : String :=
  level.name ++ String.ofList (List.replicate (8 - level.name.length) ' ')

/-- The record for people: level, logger, message, then the context and the data if there are
any. -/
def humanText? (r : Record) (colored : Bool) : Option String := do
  let text ← r.text?
  let level :=
    if colored then color r.level ++ padded r.level ++ "\x1b[0m" else padded r.level
  let fields ← r.context.mapM fun f => f.2.shown?.map (s!"{f.1}={·}")
  let context := if fields.isEmpty then "" else " | " ++ " ".intercalate fields
  let data := r.data.getD []
  let shown ← (Json.obj data).line? .ascii
  let data := if data.isEmpty then "" else s!" | data={shown}"
  pure s!"{level} [{r.logger}] {text}{context}{data}"

end Record

/-- The names of the kinds of reports. -/
def reportKinds : List String :=
  [Report.Kind.general, .invalidDepth .minimum 0, .invalidConfig none, .unreadable,
    .malformed none none, .sourceFile, .traceWrite].map Report.Kind.name

/-- The last line about a failure: its full kind and its text, if it has one. -/
def lastLine (c : Cause) : String :=
  let kind := if reportKinds.contains c.kind then "tracegen.errors.base." ++ c.kind else c.kind
  let all := if c.text = "" then kind else s!"{kind}: {c.text}"
  (Text.split '\n' all).getLastD ""

/-- The last line about a value that was handed over in the place of a failure, if it can be
written: a list of three items or more, of which the second and the third one are nothing. -/
def handedLine? : Json → Option String
  | .arr (_ :: .null :: .null :: _) => some "NoneType: None"
  | _ => none

/-- Whether a value that was handed over in the place of a failure stands for none: a list that
starts with nothing. -/
def standsForNone : Json → Bool
  | .arr (.null :: _) => true
  | _ => false

namespace Sink

/-- Whether records of this logger and level are written. Level zero stands for warnings, and
records of level zero or less are never written. -/
def admits (s : Sink) (logger : String) (level : Level) : Bool :=
  let own := logger == rootName || (rootName ++ ".").toList.isPrefixOf logger.toList
  let least := if s.level = 0 then Level.warning else s.level
  own && 0 < level && least ≤ level

/-- The lines that a record adds to the stream. A value in the place of a failure that makes no
sense there keeps the record from being written. -/
def lines (s : Sink) (r : Record) (stamp? : Option Stamp := none) : List String :=
  if s.admits r.logger r.level then
    match s.layout with
    | .json withPlace =>
      if r.handed.all standsForNone then (r.jsonLine? withPlace stamp?).toList else []
    | .human colored =>
      (r.humanText? colored).elim [] fun text =>
        let own := Text.split '\n' text ++ r.cause.toList.map lastLine
        match r.handed with
        | none => own
        | some j => (handedLine? j).elim [] fun line => own ++ [line]
  else []

end Sink

end StateTraces.Log
