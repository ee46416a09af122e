import StateTraces.Graph

/-
Graphs by name. A graph is changed under its name, made as a copy of another one, or made of rows, each of
which has to be an edge. A name that is given again stands for the new graph; what is done under a name
that nobody gave does nothing.
-/

namespace StateTraces

/-- Graphs, each under its name. -/
abbrev Graphs (N V L : Type) [DecidableEq V] := Table N (Graph V L)

namespace Graphs

variable {N V L : Type}

/-- What can be done with graphs. A row that is no edge is given as none. -/
inductive Command (N V L : Type) where
  | addVertex (name : N) (v : V)
  | addEdge (name : N) (source target : V) (label : L)
  | clear (name : N)
  | clone (name new : N)
  | ofRows (rows : List (Option (V × V × L))) (new : N)
  deriving DecidableEq, Repr

variable [DecidableEq N] [DecidableEq V]

/-- Puts a graph under a name, if there is one to put. -/
def put (gs : Graphs N V L) (name : N) (g? : Option (Graph V L)) : Graphs N V L :=
  g?.elim gs fun g => gs.set name g

/-- The graphs after a command. -/
def step (gs : Graphs N V L) : Command N V L → Graphs N V L
  | .addVertex name v => gs.put name ((gs.get? name).map (·.addVertex v))
  | .addEdge name source target label => gs.put name ((gs.get? name).map (·.addEdge source target label))
  | .clear name => gs.put name ((gs.get? name).map fun _ => .empty)
  | .clone name new => gs.put new (gs.get? name)
  | .ofRows rows new => gs.put new ((rows.mapM id).map .ofEdges)

/-- Whether the vertex or the edge that a command adds is there already. -/
def known? (gs : Graphs N V L) : Command N V L → Option Bool
  | .addVertex name v => (gs.get? name).map fun g => decide (v ∈ g.vertices)
  | .addEdge name source target _ => (gs.get? name).map (·.hasEdge source target)
  | .clear _ | .clone _ _ | .ofRows _ _ => none

/-- The graphs that commands make, one after another, where there were none. -/
def run (commands : List (Command N V L)) : Graphs N V L := commands.foldl step []

end Graphs

end StateTraces
