/-
Causes: the failures behind reports and log records.
-/

namespace StateTraces

/-- An underlying failure: its kind and its text. -/
structure Cause where
  kind : String
  text : String
  deriving DecidableEq, Repr, Inhabited

end StateTraces
