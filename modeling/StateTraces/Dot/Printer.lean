import StateTraces.Graph

/-
Writing a graph as a graph text: a statement for every vertex in order, then one for every edge in
order, all names and labels in quotes.
-/

namespace StateTraces.Dot

/-- A text between quotes, each quote inside it escaped. -/
def enquote (s : String) : List Char :=
  '"' :: s.toList.flatMap (fun c => if c = '"' then ['\\', '"'] else [c]) ++ ['"']

/-- The statement of a vertex. -/
def vertexText (v : String) : List Char := ' ' :: enquote v ++ [';']

/-- The statement of an edge with its label. -/
def edgeText (e : String × String × String) : List Char :=
  ' ' :: enquote e.1 ++ " -> ".toList ++ enquote e.2.1 ++ " [label=".toList ++ enquote e.2.2 ++
    "];".toList

/-- The text of a graph. -/
def print (g : Graph String String) : String :=
  String.ofList ("digraph \x7b".toList ++ g.vertices.flatMap vertexText ++
    g.edges.flatMap edgeText ++ " \x7d".toList)

end StateTraces.Dot
