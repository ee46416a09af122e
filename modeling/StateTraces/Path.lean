import StateTraces.Enumeration.Search

/-
Maximal simple paths: paths without a repeated vertex that no edge continues to a new vertex.
-/

namespace StateTraces.Path

variable {V L : Type} [DecidableEq V]

/-- The label sequences of the maximal simple paths that continue `labels` from `v`, depth first;
`fresh` are the vertices not yet on the path. -/
def maximal (g : Graph V L) (v : V) (fresh : List V) (labels : List L) : List (List L) :=
  let next := (g.outEdges v).filter fun e => decide (e.1 ∈ fresh)
  if next.isEmpty then
    if labels.isEmpty then [] else [labels]
  else
    next.attach.flatMap fun ⟨e, h⟩ =>
      have : (fresh.filter (· ≠ e.1)).length < fresh.length :=
        Enumeration.length_filter_lt (by simpa using (List.mem_filter.1 h).2) (by simp)
          (Nat.le_refl _)
      maximal g e.1 (fresh.filter (· ≠ e.1)) (labels ++ [e.2])
termination_by fresh.length
decreasing_by exact this

/-- The label sequences of the maximal simple paths from a root. -/
def traces (g : Graph V L) (root : V) : List (List L) :=
  maximal g root (g.vertices.filter (· ≠ root)) []

/-- The traces from its first vertex, for every subgraph of a graph. -/
def combinationTraces (g : Graph V L) (window : Option DepthWindow) : List (List (List L)) :=
  (Enumeration.allSubgraphs g window).map fun c => (c.vertices.head?.map (traces c)).getD []

end StateTraces.Path
