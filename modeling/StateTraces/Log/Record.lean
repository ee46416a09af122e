import StateTraces.Cause
import StateTraces.Json
import StateTraces.Log.Level
import StateTraces.Log.Template

/-
Log records: what a part of the library has to say while it works. Every part writes under its own
name. What it says is a template with values for its places, if there are any. A record carries the
context in which it was made, the failure that was being handled if there was one and, if it was made
by a structured logger, data of its own. A call may also hand over a value of its own in the place of
a failure.
-/

namespace StateTraces.Log

/-- One record. -/
structure Record where
  level : Level
  logger : String
  message : String
  values : List Json := []
  data : Option (Table String Json) := none
  context : Table String Json := []
  cause : Option Cause := none
  handed : Option Json := none
  deriving BEq, Inhabited

/-- What a record says, if its values fit. -/
def Record.text? (r : Record) : Option String := Template.message? r.message r.values

/-- A plain record for readers of the program. -/
def Record.debug (logger message : String) : Record := { level := .debug, logger, message }

def Record.warning (logger message : String) : Record := { level := .warning, logger, message }

end StateTraces.Log
