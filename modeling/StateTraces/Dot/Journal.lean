import StateTraces.Dot.Document
import StateTraces.Log.Record

/-
What reading a graph text writes to the log: the name of the graph and its size.
-/

namespace StateTraces.Dot

/-- The record of a document that was read. -/
def Document.record (d : Document) : Log.Record :=
  let name := (d.name.filter (· ≠ "")).getD "<anonymous>"
  let g := d.graph
  .debug "tracegen.parsing.dot"
    s!"Read graph {name}: {g.size} vertices, {g.edgeCount} edges"

end StateTraces.Dot
