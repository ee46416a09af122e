import StateTraces.Proofs.Enumeration.Entry
import StateTraces.Proofs.Path.Admissible

/-
A branch of a search: the vertices it has visited, which include the targets passed over on the way,
and the paths that can still continue it. From a root whose only visited vertex is itself, these are
the admissible paths.
-/

namespace StateTraces.Enumeration

open StateTraces.Path

/-! ## Results -/

section Results

variable {V R : Type}

theorem results_next (e : Event V R) (rest : Unit → Feed (Event V R)) :
    results (.next e rest) = e.value?.toList ++ results (rest ()) := by
  simp only [results, Feed.toList_next, List.filterMap_cons]
  cases e.value? <;> rfl

theorem results_append (a : Feed (Event V R)) (b : Unit → Feed (Event V R)) :
    results (a.append b) = results a ++ results (b ()) := by
  simp [results]

theorem results_flatMap {α : Type} (a : Feed α) (f : α → Feed (Event V R)) :
    results (a.flatMap f) = a.toList.flatMap fun x => results (f x) := by
  simp [results, List.filterMap_flatMap]

theorem results_report (window : Option DepthWindow) (depth : Nat) (r : R) :
    results (report window depth r : Feed (Event V R)) = if reported window depth then [r] else [] := by
  unfold report
  split <;> rfl

end Results

/-- A window never reports what it does not expand. -/
theorem not_reported_of_not_within {window : Option DepthWindow} {depth : Nat}
    (h : ¬ within window depth = true) {n : Nat} (hn : depth ≤ n) : reported window n = false := by
  cases window with
  | none => simp [within] at h
  | some w =>
    simp only [within, Option.all_some, decide_eq_true_eq, not_le] at h
    simp only [reported, Option.all_some, DepthWindow.admits, Bool.and_eq_false_iff, decide_eq_false_iff_not]
    omega

variable {V L : Type} [DecidableEq V]

/-! ## Visited vertices -/

/-- The vertices of a graph that are not visited. -/
def unvisited (g : Graph V L) (visited : Finset V) : List V := g.vertices.filter (· ∉ visited)

theorem mem_unvisited {g : Graph V L} {visited : Finset V} {v : V} :
    v ∈ unvisited g visited ↔ v ∈ g.vertices ∧ v ∉ visited := by
  simp [unvisited]

/-- The visited vertices after an out-edge is followed: also all targets up to its own. -/
def visitedThrough (visited : Finset V) (p : List (V × L) × (V × L)) : Finset V :=
  visited ∪ ((p.1 ++ [p.2]).map Prod.fst).toFinset

theorem without_unvisited (g : Graph V L) (visited : Finset V) (p : List (V × L) × (V × L)) :
    without (unvisited g visited) ((p.1 ++ [p.2]).map Prod.fst) =
      unvisited g (visitedThrough visited p) :=
  without_outside g.vertices visited (p.1 ++ [p.2])

theorem unvisited_root (g : Graph V L) (root : V) : unvisited g {root} = g.vertices.filter (· ≠ root) := by
  simp [unvisited]

/-- Following an out-edge to a target not yet visited leaves fewer unvisited vertices. -/
theorem unvisited_length_lt {g : Graph V L} {v : V} {visited : Finset V} {p : List (V × L) × (V × L)}
    (hp : p ∈ splits (g.outEdges v)) (h : p.2.1 ∉ visited) :
    (unvisited g (visitedThrough visited p)).length < (unvisited g visited).length := by
  rw [← without_unvisited]
  have hmem := mem_unvisited.2 ⟨g.mem_vertices_of_mem_outEdges (mem_of_mem_splits hp), h⟩
  exact length_filter_lt hmem (by simp) (Nat.le_refl _)

/-- What one size leads to: every target that is not visited is entered once, in order. -/
theorem flatMap_groupEntries {β : Type} (g : Graph V L) (v : V) (visited : Finset V) (size : Nat)
    (f : Entry V L → List β) :
    (groupEntries (g.outEdges v) (unvisited g visited) size).flatMap f =
      (splits (g.outEdges v)).flatMap fun p =>
        if p.2.1 ∈ visited then []
        else f ⟨firstChoice (g.outEdges v) size p, p.2, unvisited g (visitedThrough visited p)⟩ := by
  rw [groupEntries, List.flatMap_map, flatMap_filter]
  refine List.flatMap_congr fun p hp => ?_
  have hv : p.2.1 ∈ g.vertices := g.mem_vertices_of_mem_outEdges (mem_of_mem_splits hp)
  by_cases h : p.2.1 ∈ visited
  · simp [mem_unvisited, h]
  · rw [if_pos (by simpa using mem_unvisited.2 ⟨hv, h⟩), if_neg h, without_unvisited]

/-! ## Continuing a branch -/

/-- An admissible path from `v` that enters no visited vertex. -/
def Continues (g : Graph V L) (visited : Finset V) (v : V) (steps : List (V × L)) : Prop :=
  Admissible g v steps ∧ ∀ w ∈ entered steps, w ∉ visited

theorem mem_visitedThrough {visited : Finset V} {p : List (V × L) × (V × L)} {w : V} :
    w ∈ visitedThrough visited p ↔ w ∈ visited ∨ w ∈ entered p.1 ∨ w = p.2.1 := by
  simp only [visitedThrough, entered, Finset.mem_union, List.mem_toFinset, List.map_append, List.mem_append,
    List.map_cons, List.map_nil, List.mem_singleton]

theorem continues_nil (g : Graph V L) (visited : Finset V) (v : V) : Continues g visited v [] :=
  ⟨admissible_nil g v, fun _ h => absurd h List.not_mem_nil⟩

/-- On a branch that has visited `v`, a path continues it exactly when its first step enters a fresh
target and the rest continues the branch as it is after that. -/
theorem continues_cons {g : Graph V L} {visited : Finset V} {v : V} (hv : v ∈ visited) {e : V × L}
    {steps : List (V × L)} :
    Continues g visited v (e :: steps) ↔
      ∃ p ∈ splits (g.outEdges v), p.2 = e ∧ e.1 ∉ visited ∧
        Continues g (visitedThrough visited p) e.1 steps := by
  constructor
  · rintro ⟨hadm, havoid⟩
    obtain ⟨⟨before, hp, hbefore⟩, -, hrest⟩ := admissible_cons.1 hadm
    have hself : e.1 ∉ entered steps := (List.nodup_cons.1 hrest.distinct).1
    refine ⟨_, hp, rfl, havoid _ (List.mem_cons_self ..), hrest, fun w hw hvis => ?_⟩
    rcases mem_visitedThrough.1 hvis with h | h | rfl
    · exact havoid w (List.mem_cons_of_mem _ hw) h
    · exact hbefore w hw h
    · exact hself hw
  · -- the root is visited, so nothing that enters fresh vertices only comes back to it
    rintro ⟨p, hp, rfl, hfresh, hadm, havoid⟩
    have hnot := fun w hw => not_or.1 (mt mem_visitedThrough.2 (havoid w hw))
    refine ⟨admissible_cons.2 ⟨⟨p.1, hp, fun w hw => (not_or.1 (hnot w hw).2).1⟩, ?_, hadm⟩, ?_⟩
    · rintro hmem
      rcases List.mem_cons.1 hmem with rfl | hmem
      · exact hfresh hv
      · exact (hnot v hmem).1 hv
    · intro w hw
      rcases List.mem_cons.1 hw with rfl | hw
      · exact hfresh
      · exact (hnot w hw).1

theorem continues_root {g : Graph V L} {root : V} {steps : List (V × L)} :
    Continues g {root} root steps ↔ Admissible g root steps := by
  refine ⟨fun h => h.1, fun h => ⟨h, fun w hw hr => ?_⟩⟩
  rw [Finset.mem_singleton] at hr
  exact (List.nodup_cons.1 h.distinct).1 (hr ▸ hw)

end StateTraces.Enumeration
