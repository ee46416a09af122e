import StateTraces.Log.Record
import StateTraces.Value

/-
Structured loggers: a name, and fields that are added to the data of every record. The data of a
call overrides the fields of the logger. One name in it stands for the failure that is handled.
-/

namespace StateTraces.Log

/-- A logger with the fields that were bound to it. -/
structure Logger where
  name : String
  fields : Table String Json := []
  deriving Inhabited

namespace Logger

/-- The logger with more fields. -/
def bind (l : Logger) (fields : Table String Json) : Logger :=
  { l with fields := l.fields.merge fields }

/-- The name under which a call hands over what stands for a failure. -/
def failureName : String := "exc_info"

/-- A record of the logger, made in a context. -/
def record (l : Logger) (context : Table String Json) (level : Level) (message : String)
    (data : Table String Json) : Record :=
  let handed := (Table.get? failureName data).filter fun j => !(Value.ofJson j).isVoid
  { level, logger := l.name, message, context, handed
    data := l.fields.merge (data.filter (·.1 != failureName)) }

end Logger

end StateTraces.Log
