import StateTraces.Log.Logger
import StateTraces.Log.Scope
import StateTraces.Log.Sink

/-
A desk at which records are made: a stream, the context of the moment, and loggers under names. What is
done goes step by step: blocks are entered and left, loggers are bound, and calls make records. A step
whose fields take a name that the call needs for itself, or whose level has no name, is mistaken, and
nothing is done.
-/

namespace StateTraces.Log

/-- The stream, if there is one, the context, and the loggers that were given names. -/
structure Desk where
  sink : Option Sink := none
  scope : Scope := {}
  loggers : Table String Logger := []
  deriving Inhabited

/-- A call that makes a record: of a structured logger, with the failure that is being handled if there is
one, or of a plain logger, with values for the places of a template. -/
inductive Call where
  | log (logger : String) (level : Level) (message : String) (data : Table String Json)
  | fail (logger message : String) (data : Table String Json) (cause? : Option Cause)
  | plain (logger : String) (level : Level) (template : String) (values : List Json)

/-- What is done at a desk. -/
inductive Step where
  | enter (fields : Table String Json)
  | leave
  | bind (name source : String) (fields : Table String Json)
  | write (call : Call)

/-- What a step answers. -/
inductive Reply where
  | context (fields : Table String Json)
  | bound
  | lines (lines : List String)
  | mistaken

/-- The names that a call needs for itself. -/
def Call.reserved : Call → List String
  | .log .. => ["self", "level", "message"]
  | .fail .. => ["self", "level", "message", Logger.failureName]
  | .plain .. => []

/-- The data of a call. -/
def Call.data : Call → Table String Json
  | .log _ _ _ data => data
  | .fail _ _ data _ => data
  | .plain .. => []

/-- The level of the record that a call makes. -/
def Call.level : Call → Level
  | .log _ level _ _ => level
  | .fail .. => .error
  | .plain _ level .. => level

/-- Whether a call would make a record whose level has no name. -/
def Call.isUnnamed (call : Call) : Bool := 0 < call.level && call.level.name?.isNone

/-- Whether a step takes a name that is needed for something else, or needs one that is not there. -/
def Step.isMistaken : Step → Bool
  | .bind _ _ fields => fields.keys.contains "self"
  | .write call => call.reserved.any call.data.keys.contains || call.isUnnamed
  | _ => false

namespace Desk

/-- The logger of a name; a name that was not given to one is the name of a new logger. -/
def logger (d : Desk) (name : String) : Logger := (d.loggers.get? name).getD { name }

/-- What is handed over where a failure is asked for and there is none. -/
def noFailure : Json := .arr [.null, .null, .null]

/-- The record that a call makes. -/
def record (d : Desk) : Call → Record
  | .log logger level message data => (d.logger logger).record d.scope.current level message data
  | .fail logger message data cause? =>
    { (d.logger logger).record d.scope.current .error message data with
      cause := cause?, handed := if cause?.isNone then some noFailure else none }
  | .plain logger level message values => { level, logger, message, values, context := d.scope.current }

/-- One step, and its answer. -/
def perform (d : Desk) (s : Step) (stamp? : Option Stamp := none) : Desk × Reply :=
  if s.isMistaken then (d, .mistaken)
  else match s with
    | .enter fields =>
      let scope := d.scope.enter fields
      ({ d with scope }, .context scope.current)
    | .leave =>
      let scope := d.scope.leave
      ({ d with scope }, .context scope.current)
    | .bind name source fields =>
      ({ d with loggers := d.loggers.set name ((d.logger source).bind fields) }, .bound)
    | .write call => (d, .lines (d.sink.elim [] (·.lines (d.record call) stamp?)))

end Desk

end StateTraces.Log
