import StateTraces.Atom
import StateTraces.Enumeration.Event
import StateTraces.Log.Record
import StateTraces.Subset

/-
What an enumeration writes to the log: a line for every root, and the counts of a finished run.
-/

namespace StateTraces.Enumeration

def logger : String := "tracegen.core.enumerator"

/-- The record of an event; only roots leave one. -/
def Event.record? {R : Type} : Event Atom R → Option Log.Record
  | .root v degree =>
    let choices := Subset.choiceCount degree
    some (.debug logger s!"Expanding root {v.literal} ({choices} subset choices)")
  | _ => none

/-- The records of a run, in order. -/
def journal {R : Type} (events : Feed (Event Atom R)) : List Log.Record :=
  events.toList.filterMap Event.record?

/-- The record at the end of a run that was not broken off. -/
def Tally.record (t : Tally) : Log.Record :=
  .debug logger (s!"Enumeration finished: {t.roots} roots, {t.combinations} combinations, " ++
    s!"{t.emitted} results, depth {t.deepest}")

end StateTraces.Enumeration
