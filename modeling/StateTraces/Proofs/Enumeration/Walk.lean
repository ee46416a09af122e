import StateTraces.Proofs.Enumeration.Branch

/-
The search for traces as a plain walk that forms no choices: a vertex repeats one block as often as
it has out-edges, and the block goes once through the out-edges and enters every target that is not
visited, with the targets up to it visited from then on. A walk that goes through each block only
once finds the same traces in the same order of first mention.
-/

namespace StateTraces.Enumeration

variable {V L : Type} [DecidableEq V]

/-! ## The walk -/

/-- The traces below a vertex at the end of the labels `path`, where the block of a vertex `v` is
repeated `copies v` times. -/
def walk (g : Graph V L) (window : Option DepthWindow) (copies : V → Nat) (v : V) (visited : Finset V)
    (path : List L) (depth : Nat) : List (List L) :=
  if within window depth then
    (List.replicate (copies v) ((splits (g.outEdges v)).attach.flatMap fun ⟨p, _⟩ =>
      if p.2.1 ∈ visited then []
      else
        (if reported window depth then [path ++ [p.2.2]] else []) ++
          walk g window copies p.2.1 (visitedThrough visited p) (path ++ [p.2.2]) (depth + 1))).flatten
  else []
termination_by (unvisited g visited).length
decreasing_by exact unvisited_length_lt ‹_› ‹_›

theorem walk_eq (g : Graph V L) (window : Option DepthWindow) (copies : V → Nat) (v : V)
    (visited : Finset V) (path : List L) (depth : Nat) :
    walk g window copies v visited path depth =
      if within window depth then
        (List.replicate (copies v) ((splits (g.outEdges v)).flatMap fun p =>
          if p.2.1 ∈ visited then []
          else
            (if reported window depth then [path ++ [p.2.2]] else []) ++
              walk g window copies p.2.1 (visitedThrough visited p) (path ++ [p.2.2]) (depth + 1))).flatten
      else [] := by
  rw [walk]
  congr 3
  conv_rhs => rw [← List.unattach_attach (l := splits (g.outEdges v))]
  exact List.flatMap_subtype fun _ _ => rfl

/-! ## The search as a walk -/

/-- Only entries lead to traces. -/
theorem results_traces (g : Graph V L) (window : Option DepthWindow) (v : V) (fresh : List V)
    (path : List L) (depth : Nat) :
    results (traces g window v fresh path depth) =
      if within window depth then
        ((steps (g.outEdges v) fresh).toList.filterMap Step.entered?).flatMap fun e =>
          (if reported window depth then [path ++ [e.edge.2]] else []) ++
            results (traces g window e.edge.1 e.fresh (path ++ [e.edge.2]) (depth + 1))
      else [] := by
  rw [traces]
  split
  · rw [results_next, results_flatMap, List.filterMap_eq_flatMap_toList, List.flatMap_assoc]
    refine List.flatMap_congr fun s _ => ?_
    cases s with
    | choose chosen => rfl
    | enter chosen target label fresh smaller => simp [results_append, results_report]
  · rfl

theorem results_traces_eq_walk (g : Graph V L) (window : Option DepthWindow) (v : V)
    (visited : Finset V) (path : List L) (depth : Nat) :
    results (traces g window v (unvisited g visited) path depth) =
      walk g window g.outDegree v visited path depth := by
  rw [results_traces, walk_eq]
  split
  · rw [entries_steps (g.nodup_outEdges v), List.flatMap_assoc]
    simp only [flatMap_groupEntries, flatMap_const, List.length_range', Graph.outDegree]
    congr 2
    refine List.flatMap_congr fun p hp => ?_
    split
    · rfl
    · rename_i h
      have := unvisited_length_lt hp h
      rw [results_traces_eq_walk g window p.2.1 (visitedThrough visited p)]
  · rfl
termination_by (unvisited g visited).length

/-! ## The whole run -/

/-- The traces found while one vertex is the root. -/
theorem allTraces_eq (g : Graph V L) (window : Option DepthWindow) :
    allTraces g window = g.vertices.flatMap fun root =>
      results (traces g window root (unvisited g {root}) [] 1) := by
  simp [allTraces, traceEvents, fromRoots, results_flatMap, results_next, Event.value?, unvisited_root]

/-- How often a block is repeated makes no difference to the first mentions. -/
theorem sameMentions_walk [DecidableEq L] (g : Graph V L) (window : Option DepthWindow) (v : V)
    (visited : Finset V) (path : List L) (depth : Nat) :
    SameMentions (walk g window g.outDegree v visited path depth)
      (walk g window (fun _ => 1) v visited path depth) := by
  rw [walk_eq, walk_eq]
  split
  · have hblock : ∀ p ∈ splits (g.outEdges v), SameMentions
        (if p.2.1 ∈ visited then [] else (if reported window depth then [path ++ [p.2.2]] else []) ++
          walk g window g.outDegree p.2.1 (visitedThrough visited p) (path ++ [p.2.2]) (depth + 1))
        (if p.2.1 ∈ visited then [] else (if reported window depth then [path ++ [p.2.2]] else []) ++
          walk g window (fun _ => 1) p.2.1 (visitedThrough visited p) (path ++ [p.2.2]) (depth + 1)) := by
      intro p hp
      split
      · exact .refl _
      · rename_i h
        have := unvisited_length_lt hp h
        exact (SameMentions.refl _).append (sameMentions_walk ..)
    rw [List.replicate_one, List.flatten_singleton]
    cases hdeg : g.outDegree v with
    | zero =>
      -- no out-edges: the block is empty
      have : g.outEdges v = [] := List.length_eq_zero_iff.1 hdeg
      simp [this, splits, SameMentions]
    | succ n => exact (SameMentions.flatten_replicate _ n).trans (.flatMap hblock)
  · exact .refl _
termination_by (unvisited g visited).length

/-- The search for traces is the plain walk that repeats the block of a vertex once for each of its
out-edges; the walk that goes through every block once finds the same traces in the same order of
first mention. -/
theorem traces_eq_walk [DecidableEq L] (g : Graph V L) (window : Option DepthWindow) :
    (∀ (v : V) (visited : Finset V) (path : List L) (depth : Nat),
      results (traces g window v (g.vertices.filter (· ∉ visited)) path depth) =
        walk g window g.outDegree v visited path depth) ∧
      (allTraces g window).eraseDups =
        (g.vertices.flatMap fun root => walk g window (fun _ => 1) root {root} [] 1).eraseDups := by
  have hroot : ∀ root ∈ g.vertices, SameMentions (results (traces g window root (unvisited g {root}) [] 1))
      (walk g window (fun _ => 1) root {root} [] 1) := by
    intro root _
    rw [results_traces_eq_walk]
    exact sameMentions_walk ..
  refine ⟨results_traces_eq_walk g window, ?_⟩
  rw [allTraces_eq]
  exact SameMentions.flatMap hroot

end StateTraces.Enumeration
