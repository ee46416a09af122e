import Mathlib.Order.WellFounded
import StateTraces.Proofs.Enumeration.Counts

/-
Why the searches end, however cyclic the graph. A visit leads only to vertices of the graph that it has not
seen, so each visit that follows leaves fewer of them, and no branch of visits is longer than there are
vertices. The bounds on depths and on lengths of traces come from that.
-/

namespace StateTraces.Enumeration

variable {V L : Type} [DecidableEq V]

/-! ## Branches -/

/-- Visits one after another, each of which the one before leads to. -/
def Branch (g : Graph V L) (x : Visit V) (branch : List (Visit V)) : Prop := List.IsChain (Leads g) (x :: branch)

theorem leads_wellFounded (g : Graph V L) : WellFounded fun y x => Leads g x y :=
  Subrelation.wf (fun h => h.unvisited_lt) (measure fun x : Visit V => (unvisited g x.visited).length).wf

/-- A branch enters vertices of the graph only, none that was visited before it and none twice; so it is no
longer than there were vertices left. -/
theorem Branch.fresh {g : Graph V L} {x : Visit V} {branch : List (Visit V)} (h : Branch g x branch) :
    (branch.map Visit.vertex).Nodup ∧ (∀ y ∈ branch, y.vertex ∈ g.vertices ∧ y.vertex ∉ x.visited) ∧
      branch.length ≤ (unvisited g x.visited).length := by
  induction branch generalizing x with
  | nil => exact ⟨List.nodup_nil, fun y hy => absurd hy List.not_mem_nil, Nat.zero_le _⟩
  | cons y branch ih =>
    obtain ⟨hlead, hrest⟩ := List.isChain_cons_cons.1 h
    obtain ⟨-, hvertex, hnew, hself, hsub⟩ := hlead.enters
    obtain ⟨hnodup, hmem, hlength⟩ := ih hrest
    refine ⟨?_, ?_, ?_⟩
    · -- the later vertices are not visited at `y`, which its own vertex is
      refine List.nodup_cons.2 ⟨fun hy => ?_, hnodup⟩
      obtain ⟨z, hz, heq⟩ := List.mem_map.1 hy
      exact (hmem z hz).2 (heq ▸ hself)
    · intro z hz
      rcases List.mem_cons.1 hz with rfl | hz
      · exact ⟨hvertex, hnew⟩
      · exact ⟨(hmem z hz).1, fun hx => (hmem z hz).2 (hsub hx)⟩
    · have := hlead.unvisited_lt
      rw [List.length_cons]
      omega

/-! ## The visits of a run -/

/-- Without a window a course goes through everything that its visit leads to. -/
theorem mem_visits_course {g : Graph V L} {x y : Visit V} :
    y ∈ (course g none x).filterMap Move.visit? ↔ Relation.ReflTransGen (Leads g) x y := by
  rw [course_eq, if_pos (within_none _), List.filterMap_cons_some (Move.visit?_visit x), List.filterMap_flatMap,
    List.mem_cons, List.mem_flatMap, Relation.ReflTransGen.cases_head_iff]
  refine or_congr eq_comm ⟨?_, ?_⟩
  · rintro ⟨m, hm, hy⟩
    cases m with
    | choose chosen => cases hy
    | visit z =>
      have := Leads.unvisited_lt hm
      exact ⟨z, hm, mem_visits_course.1 hy⟩
  · rintro ⟨z, hz, hy⟩
    have := hz.unvisited_lt
    exact ⟨.visit z, hz, mem_visits_course.2 hy⟩
termination_by (unvisited g x.visited).length

/-- How deep a branch goes, at most one level for each vertex that is left. -/
theorem depth_le_of_leads {g : Graph V L} {x y : Visit V} (h : Relation.ReflTransGen (Leads g) x y) :
    y.depth + (unvisited g y.visited).length ≤ x.depth + (unvisited g x.visited).length := by
  induction h with
  | refl => exact Nat.le_refl _
  | tail _ hlead ih =>
    have hdepth := hlead.enters.1
    have hlt := hlead.unvisited_lt
    omega

theorem unvisited_root_lt {g : Graph V L} {root : V} (h : root ∈ g.vertices) :
    (unvisited g (Visit.root root).visited).length < g.size := by
  rw [Visit.root, unvisited_root]
  exact fresh_lt_size h

/-- No visit of a run lies deeper than there are vertices. -/
theorem deepest_le_size (g : Graph V L) (emitted : Nat) : (visitTally g none emitted).deepest ≤ g.size := by
  have hle : ∀ d ∈ (allVisits g none).map Visit.depth, d ≤ g.size := by
    intro d hd
    obtain ⟨y, hy, rfl⟩ := List.mem_map.1 hd
    obtain ⟨root, hroot, hy⟩ := List.mem_flatMap.1 hy
    have hdepth := depth_le_of_leads (mem_visits_course.1 hy)
    have hleft := unvisited_root_lt hroot
    have hone : (Visit.root root).depth = 1 := rfl
    omega
  rw [visitTally]
  cases hmax : ((allVisits g none).map Visit.depth).max? with
  | none => exact Nat.zero_le _
  | some d => exact hle d (List.max?_mem hmax)

/-- Every search without a window ends. A visit leads only to a vertex of the graph that it has not seen, so
that fewer are left; there is no endless branch of visits, and the visits that both searches make are those
that the roots lead to. On a branch no vertex comes twice and the root does not come back, so the depth is
at most the number of vertices and a trace is shorter than that. -/
theorem search_ends (g : Graph V L) :
    (∀ x y, Leads g x y → y.vertex ∈ g.vertices ∧ y.vertex ∉ x.visited ∧ insert y.vertex x.visited ⊆ y.visited ∧
      (unvisited g y.visited).length < (unvisited g x.visited).length) ∧
    WellFounded (fun y x => Leads g x y) ∧
    (moves (traceEvents g none) = runMoves g none ∧ moves (subgraphEvents g none) = runMoves g none) ∧
    (∀ y, y ∈ allVisits g none ↔ ∃ root ∈ g.vertices, Relation.ReflTransGen (Leads g) (.root root) y) ∧
    (∀ root ∈ g.vertices, ∀ branch, Branch g (.root root) branch →
      (root :: branch.map Visit.vertex).Nodup ∧ (∀ y ∈ branch, y.vertex ∈ g.vertices) ∧ branch.length < g.size) ∧
    ((Tally.ofEvents (traceEvents g none)).deepest ≤ g.size ∧
      (Tally.ofEvents (subgraphEvents g none)).deepest ≤ g.size) ∧
    ∀ t ∈ allTraces g none, t.length + 1 ≤ g.size := by
  refine ⟨fun x y h => ?_, leads_wellFounded g, ⟨moves_traceEvents .., moves_subgraphEvents ..⟩, fun y => ?_, ?_,
    ?_, fun t ht => ?_⟩
  · obtain ⟨-, hvertex, hnew, hself, hsub⟩ := h.enters
    exact ⟨hvertex, hnew, Finset.insert_subset hself hsub, h.unvisited_lt⟩
  · simp only [allVisits, List.mem_flatMap, mem_visits_course]
  · intro root hroot branch h
    obtain ⟨hnodup, hmem, hlength⟩ := h.fresh
    refine ⟨List.nodup_cons.2 ⟨fun hr => ?_, hnodup⟩, fun y hy => (hmem y hy).1, ?_⟩
    · obtain ⟨y, hy, heq⟩ := List.mem_map.1 hr
      exact (hmem y hy).2 (heq ▸ Finset.mem_singleton_self _)
    · exact Nat.lt_of_le_of_lt hlength (unvisited_root_lt hroot)
  · rw [ofEvents_of_moves (moves_traceEvents ..), ofEvents_of_moves (moves_subgraphEvents ..)]
    exact ⟨deepest_le_size .., deepest_le_size ..⟩
  · rw [allTraces, results_eq_map_tagged] at ht
    obtain ⟨r, hr, rfl⟩ := List.mem_map.1 ht
    rw [traceEvents, tagged_fromRoots] at hr
    obtain ⟨root, hroot, hr⟩ := List.mem_flatMap.1 hr
    have hfresh := fresh_lt_size hroot
    have hdepth := mem_tagged_traces hr
    rw [List.length_nil] at hdepth
    omega

/-- A root with a loop, on a cycle of two vertices: its branch to the other vertex and the trace of that. -/
theorem search_ends_loop :
    let g : Graph Nat Nat := .ofEdges [(0, 0, 5), (0, 1, 7), (1, 0, 8)]
    let y : Visit Nat := ⟨1, insert 1 {0}, 2⟩
    (Leads g (.root 0) y ∧ (unvisited g y.visited).length < (unvisited g {0}).length) ∧
      (0 ∈ g.vertices ∧ Branch g (.root 0) [y] ∧ (0 :: [y].map Visit.vertex).Nodup ∧ [y].length < g.size) ∧
      ([7] ∈ allTraces g none ∧ [7].length + 1 ≤ g.size) := by
  intro g y
  obtain ⟨hleads, -, -, -, hbranch, -, htraces⟩ := search_ends g
  have hy : Leads g (.root 0) y := by decide
  have hroot : 0 ∈ g.vertices := by decide
  have hchain : Branch g (.root 0) [y] := .cons_cons hy (.singleton _)
  have htrace : [7] ∈ allTraces g none := by decide +kernel
  obtain ⟨hnodup, -, hshort⟩ := hbranch 0 hroot [y] hchain
  exact ⟨⟨hy, (hleads _ _ hy).2.2.2⟩, ⟨hroot, hchain, hnodup, hshort⟩, htrace, htraces _ htrace⟩

end StateTraces.Enumeration
