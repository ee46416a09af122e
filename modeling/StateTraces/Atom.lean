import StateTraces.Graph
import StateTraces.Json.Literal

/-
Atoms: the names of vertices and the labels of edges. A number and the text of its digits are
different atoms.
-/

namespace StateTraces

/-- The name of a vertex or the label of an edge; `nothing` is the label of an unlabelled edge. -/
inductive Atom where
  | nothing
  | number (n : Int)
  | text (s : String)
  deriving DecidableEq, Repr, Inhabited

namespace Atom

/-- The atom as it is printed. -/
def shown : Atom → String
  | .nothing => "None"
  | .number n => toString n
  | .text s => s

/-- The atom inside a message, texts in quotes. -/
def literal : Atom → String
  | .text s => Text.quoted s
  | a => a.shown

def toJson : Atom → Json
  | .nothing => .null
  | .number n => .int n
  | .text s => .str s

def ofJson? : Json → Option Atom
  | .null => some .nothing
  | .int n => some (.number n)
  | .str s => some (.text s)
  | _ => none

end Atom

/-! ## Graphs of atoms -/

/-- A graph as it comes from outside: any atoms as vertices and labels. -/
abbrev AtomGraph := Graph Atom Atom

namespace AtomGraph

/-- A row of values that is no edge. -/
structure BadRow where
  row : List Json

/-- The row stands in parentheses; a single value is followed by a comma. -/
def BadRow.message (e : BadRow) : String :=
  let body? := match e.row with
    | [j] => j.literal?.map (· ++ ",")
    | js => (js.mapM Json.literal?).map (", ".intercalate ·)
  body?.elim Text.tooLongToWrite fun body => s!"Edge must have 2 or 3 items, got ({body})"

/-- A row of values as an edge: source, target and, if there is a third, label. -/
def edgeOfRow? (row : List Json) : Option (Atom × Atom × Atom) := do
  match ← row.mapM Atom.ofJson? with
  | [s, t] => pure (s, t, .nothing)
  | [s, t, l] => pure (s, t, l)
  | _ => none

/-- The edges that the rows are, or the first row that is none. -/
def edgesOfRows (rows : List (List Json)) : Except BadRow (List (Atom × Atom × Atom)) :=
  rows.mapM fun row => (edgeOfRow? row).elim (.error ⟨row⟩) .ok

/-- The graph of texts, as a graph of atoms. -/
def ofTexts (g : Graph String String) : AtomGraph := g.rename .text .text

/-- Each vertex with its out-edges, in order. -/
def toJson (g : AtomGraph) : Json :=
  .arr (g.rows.map fun r =>
    .arr [r.1.toJson, .arr (r.2.map fun e => .arr [e.1.toJson, e.2.toJson])])

/-- What is said of an edge that is not there. -/
def noEdge (source target : Atom) : String :=
  s!"No edge {source.literal} -> {target.literal}"

/-- The numbers of vertices and edges. -/
def summary (g : AtomGraph) : String :=
  s!"DirectedGraph(vertices={g.size}, edges={g.edgeCount})"

end AtomGraph

end StateTraces
