import Mathlib.Data.Finset.Image
import StateTraces.Proofs.Enumeration.Walk

/-
An enumeration asks of vertices only which of them are equal, and of labels nothing. So the traces of
a graph whose vertices are renamed, different ones differently, are its traces with the labels renamed.
-/

namespace StateTraces.Enumeration

variable {V V' L L' : Type} [DecidableEq V] [DecidableEq V'] {f : V → V'} (hf : Function.Injective f) (l : L → L')
  (g : Graph V L) (window : Option DepthWindow)

theorem visitedThrough_rename (f : V → V') (l : L → L') (visited : Finset V) (p : List (V × L) × (V × L)) :
    visitedThrough (visited.image f) (p.1.map (Prod.map f l), Prod.map f l p.2) =
      (visitedThrough visited p).image f := by
  ext w
  simp only [mem_visitedThrough, Finset.mem_image, Path.entered, List.map_map, List.mem_map, Function.comp_apply,
    Prod.map_fst]
  constructor
  · rintro (⟨v, hv, rfl⟩ | ⟨e, he, rfl⟩ | rfl)
    · exact ⟨v, .inl hv, rfl⟩
    · exact ⟨e.1, .inr (.inl ⟨e, he, rfl⟩), rfl⟩
    · exact ⟨p.2.1, .inr (.inr rfl), rfl⟩
  · rintro ⟨v, hv | ⟨e, he, rfl⟩ | rfl, rfl⟩
    · exact .inl ⟨v, hv, rfl⟩
    · exact .inr (.inl ⟨e, he, rfl⟩)
    · exact .inr (.inr rfl)

include hf

theorem walk_rename (v : V) (visited : Finset V) (path : List L) (depth : Nat) :
    walk (g.rename f l) window (g.rename f l).outDegree (f v) (visited.image f) (path.map l) depth =
      (walk g window g.outDegree v visited path depth).map (List.map l) := by
  rw [walk_eq, walk_eq]
  split
  · rw [List.map_flatten, List.map_replicate, List.map_flatMap, Graph.outDegree_rename hf, Graph.outEdges_rename hf,
      splits_map, List.flatMap_map]
    congr 2
    refine List.flatMap_congr fun p hp => ?_
    simp only [Prod.map_fst, Prod.map_snd, hf.mem_finset_image]
    split
    · rfl
    · rename_i hfresh
      have := unvisited_length_lt hp hfresh
      have hchild := walk_rename p.2.1 (visitedThrough visited p) (path ++ [p.2.2]) (depth + 1)
      rw [List.map_append, List.map_singleton] at hchild
      rw [visitedThrough_rename, hchild, List.map_append, apply_ite (List.map (List.map l)), List.map_singleton,
        List.map_append, List.map_singleton, List.map_nil]
  · rfl
termination_by (unvisited g visited).length

/-- The traces of a renamed graph are the traces of the graph with their labels renamed. -/
theorem allTraces_rename : allTraces (g.rename f l) window = (allTraces g window).map (List.map l) := by
  rw [allTraces_eq, allTraces_eq, Graph.vertices_rename hf, List.flatMap_map, List.map_flatMap]
  refine List.flatMap_congr fun root _ => ?_
  rw [results_traces_eq_walk, results_traces_eq_walk, ← Finset.image_singleton]
  exact walk_rename hf l g window root {root} [] 1

end StateTraces.Enumeration
