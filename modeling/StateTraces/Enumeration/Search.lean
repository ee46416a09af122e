import StateTraces.DepthWindow
import StateTraces.Enumeration.Event
import StateTraces.Enumeration.Step

/-
The two searches over a graph. From every vertex as root, the search expands vertices along its
branch; the root's expansion has depth 1. Traces are the label sequences along the branch, one for
each entry; subgraphs are what has been chosen so far along the branch, one for each subset. With a
depth window nothing deeper than its maximum is expanded and only depths inside it are reported.
-/

namespace StateTraces.Enumeration

variable {V L : Type} [DecidableEq V]

/-- Whether the window still allows an expansion at this depth. -/
def within (window : Option DepthWindow) (depth : Nat) : Bool :=
  window.all fun w => depth ≤ w.maximum

/-- Whether results at this depth are reported. -/
def reported (window : Option DepthWindow) (depth : Nat) : Bool :=
  window.all fun w => w.admits depth

/-- The event of a result, if its depth is reported. -/
def report {R : Type} (window : Option DepthWindow) (depth : Nat) (r : R) : Feed (Event V R) :=
  if reported window depth then .one (.result depth r) else .done

/-- The traces below a vertex, at the end of the labels `path`. -/
def traces (g : Graph V L) (window : Option DepthWindow) (v : V) (fresh : List V) (path : List L)
    (depth : Nat) : Feed (Event V (List L)) :=
  if within window depth then
    .next (.expand depth) fun _ => (steps (g.outEdges v) fresh).flatMap fun
      | .choose _ => .one .choose
      | .enter _ target label fresh' _ =>
        (report window depth (path ++ [label])).append fun _ =>
          traces g window target fresh' (path ++ [label]) (depth + 1)
  else .done
termination_by fresh.length

/-- The subgraphs below a vertex, on top of what is `chosen` along the branch. -/
def subgraphs (g : Graph V L) (window : Option DepthWindow) (v : V) (fresh : List V)
    (branch : Graph V L) (depth : Nat) : Feed (Event V (Graph V L)) :=
  if within window depth then
    .next (.expand depth) fun _ => (steps (g.outEdges v) fresh).flatMap fun
      | .choose chosen =>
        .next .choose fun _ => report window depth (branch.addEdges v chosen)
      | .enter chosen target _ fresh' _ =>
        subgraphs g window target fresh' (branch.addEdges v chosen) (depth + 1)
  else .done
termination_by fresh.length

/-- A search from every vertex as root, in order, with all other vertices fresh. -/
def fromRoots {R : Type} (g : Graph V L) (search : V → List V → Feed (Event V R)) :
    Feed (Event V R) :=
  (Feed.ofList g.vertices).flatMap fun root =>
    .next (.root root (g.outDegree root)) fun _ => search root (g.vertices.filter (· ≠ root))

/-- Everything that happens while the traces of a graph are enumerated. -/
def traceEvents (g : Graph V L) (window : Option DepthWindow) : Feed (Event V (List L)) :=
  fromRoots g fun root fresh => traces g window root fresh [] 1

/-- Everything that happens while the subgraphs of a graph are enumerated. -/
def subgraphEvents (g : Graph V L) (window : Option DepthWindow) :
    Feed (Event V (Graph V L)) :=
  fromRoots g fun root fresh => subgraphs g window root fresh .empty 1

/-- The traces of a graph, with repetitions. -/
def allTraces (g : Graph V L) (window : Option DepthWindow) : List (List L) :=
  results (traceEvents g window)

/-- The subgraphs of a graph, with repetitions. -/
def allSubgraphs (g : Graph V L) (window : Option DepthWindow) : List (Graph V L) :=
  results (subgraphEvents g window)

end StateTraces.Enumeration
