import StateTraces.Proofs.Path.Simple
import StateTraces.Proofs.Enumeration.Subgraphs
import StateTraces.Proofs.Enumeration.Traces

/-
The two outputs of an enumeration compared. A subgraph is walked again without the order in which its
edges were listed, so what its traces begin with are the labels of simple paths, not only of admissible
ones: of those simple paths that leave only vertices of one admissible path. Every trace is among them,
and nothing else is where these paths are all admissible.
-/

namespace StateTraces.Enumeration

open StateTraces.Path

variable {V L : Type} [DecidableEq V] {g : Graph V L} {root : V}

/-! ## The edges of a plan -/

omit [DecidableEq V] in
theorem endpoint_append_singleton (root : V) (steps : List (V × L)) (e : V × L) :
    endpoint root (steps ++ [e]) = e.1 := by
  simp [endpoint, entered]

theorem isPath_append_singleton {steps : List (V × L)} {e : V × L} :
    IsPath g root (steps ++ [e]) ↔ IsPath g root steps ∧ e ∈ g.outEdges (endpoint root steps) := by
  induction steps generalizing root with
  | nil => exact and_comm
  | cons d steps ih =>
    rw [endpoint_cons, List.cons_append, IsPath, IsPath, ih, and_assoc]

theorem taken_subset {edges : List (V × L)} {size : Nat} {e : V × L} (he : e ∈ edges) :
    taken edges size e ⊆ edges := by
  unfold taken
  split
  · exact List.take_subset ..
  · exact List.append_subset.2 ⟨List.take_subset .., List.cons_subset.2 ⟨he, List.nil_subset _⟩⟩

theorem taken_length {edges : List (V × L)} {e : V × L} (he : e ∈ edges) :
    taken edges edges.length e = edges := by
  have hmem : e.1 ∈ entered edges := List.mem_map_of_mem he
  rw [taken, List.take_length, if_pos hmem]

theorem mem_edges_of_mem_edgesAlong {v : V} {hops : List (Nat × (V × L))} {last : List (V × L)}
    (hpath : IsPath g v (hops.map Prod.snd)) (hlast : last ⊆ g.outEdges (endpoint v (hops.map Prod.snd)))
    {d : V × V × L} (hd : d ∈ edgesAlong g v hops last) : d ∈ g.edges := by
  induction hops generalizing v with
  | nil =>
    obtain ⟨e, he, rfl⟩ := List.mem_map.1 hd
    exact g.mem_edges.2 (hlast he)
  | cons hop hops ih =>
    obtain ⟨size, e⟩ := hop
    rw [List.map_cons, endpoint_cons] at hlast
    rcases List.mem_append.1 hd with hd | hd
    · obtain ⟨c, hc, rfl⟩ := List.mem_map.1 hd
      exact g.mem_edges.2 (taken_subset hpath.1 hc)
    · exact ih hpath.2 hlast hd

/-- A plan takes edges of the graph, and only from vertices on its path. -/
theorem Plan.Valid.mem_edges {p : Plan V L} (h : p.Valid g root) {d : V × V × L} (hd : d ∈ p.edges g root) :
    d ∈ g.edges ∧ d.1 ∈ vertices root p.steps :=
  ⟨mem_edges_of_mem_edgesAlong h.admissible.path h.subset.subset hd, source_mem_vertices hd⟩

theorem Plan.Valid.root_mem {p : Plan V L} (h : p.Valid g root) : root ∈ g.vertices := by
  obtain ⟨⟨t, l⟩, es, he⟩ := h.head_edges
  exact (g.mem_vertices_of_mem_edges (h.mem_edges (he ▸ List.mem_cons_self ..)).1).1

/-! ## The plan that takes everything -/

/-- The plan along a path that takes all out-edges of all its vertices. -/
def Plan.spanning (g : Graph V L) (root : V) (spine : List (V × L)) : Plan V L :=
  ⟨(legs root spine).map fun d => (g.outDegree d.1, d.2), g.outEdges (endpoint root spine)⟩

theorem steps_spanning (g : Graph V L) (root : V) (spine : List (V × L)) :
    (Plan.spanning g root spine).steps = spine := by
  rw [Plan.steps, Plan.spanning, List.map_map]
  exact map_snd_legs root spine

theorem sized_spanning {spine : List (V × L)} (h : IsPath g root spine) :
    Sized g root (Plan.spanning g root spine).hops := by
  induction spine generalizing root with
  | nil => trivial
  | cons e spine ih => exact ⟨⟨List.length_pos_of_mem h.1, le_rfl⟩, ih h.2⟩

theorem valid_spanning {spine : List (V × L)} (h : Admissible g root spine)
    (hout : g.outEdges (endpoint root spine) ≠ []) : (Plan.spanning g root spine).Valid g root where
  admissible := by rwa [steps_spanning]
  sized := sized_spanning h.path
  subset := by rw [steps_spanning]; exact List.Sublist.refl _
  nonempty := hout

theorem mem_edges_spanning {spine : List (V × L)} (h : IsPath g root spine) {d : V × V × L} :
    d ∈ (Plan.spanning g root spine).edges g root ↔ d ∈ g.edges ∧ d.1 ∈ vertices root spine := by
  have hown : ∀ v : V, d ∈ (g.outEdges v).map (v, ·) ↔ d ∈ g.edges ∧ d.1 = v := by
    intro v
    obtain ⟨s, t, l⟩ := d
    rw [g.mem_edges, List.mem_map]
    constructor
    · rintro ⟨e, he, heq⟩
      cases heq
      exact ⟨he, rfl⟩
    · rintro ⟨he, rfl⟩
      exact ⟨_, he, rfl⟩
  induction spine generalizing root with
  | nil => exact (hown root).trans (and_congr_right fun _ => List.mem_singleton.symm)
  | cons e spine ih =>
    -- at the root all out-edges are taken, and then those of the rest of the path
    have hedges : (Plan.spanning g root (e :: spine)).edges g root =
        (g.outEdges root).map (root, ·) ++ (Plan.spanning g e.1 spine).edges g e.1 := by
      rw [← taken_length h.1, Plan.edges, Plan.edges, Plan.spanning, Plan.spanning, endpoint_cons]
      rfl
    rw [hedges, List.mem_append, vertices_cons, List.mem_cons, and_or_left]
    exact or_congr (hown root) (ih h.2)

/-! ## Covered paths -/

/-- A simple path that leaves only vertices of one admissible path from its root. -/
structure Covered (g : Graph V L) (root : V) (steps : List (V × L)) : Prop where
  simple : Simple g root steps
  spine : ∃ spine, Admissible g root spine ∧ departed root steps ⊆ vertices root spine

theorem covered_of_admissible {steps : List (V × L)} (h : Admissible g root steps) : Covered g root steps :=
  ⟨h.simple, steps, h, departed_subset ..⟩

/-- The admissible path may be taken to end at a vertex with out-edges. -/
theorem Covered.exists_spine {steps : List (V × L)} (h : Covered g root steps) (hne : steps ≠ []) :
    ∃ spine, Admissible g root spine ∧ departed root steps ⊆ vertices root spine ∧
      g.outEdges (endpoint root spine) ≠ [] := by
  obtain ⟨spine, hadm, hsub⟩ := h.spine
  have hleaves : ∀ w ∈ departed root steps, g.outEdges w ≠ [] := by
    intro w hw hnil
    obtain ⟨d, hd, rfl⟩ := List.mem_map.1 hw
    have he := g.mem_edges.1 (isPath_iff_legs.1 h.simple.path d hd)
    rw [hnil] at he
    cases he
  by_cases hend : g.outEdges (endpoint root spine) = []
  · -- a path that stops short of a dead end leaves as many of the vertices
    rcases List.eq_nil_or_concat spine with rfl | ⟨init, e, rfl⟩
    · obtain ⟨e, rest, rfl⟩ := List.exists_cons_of_ne_nil hne
      exact absurd hend (hleaves root (List.mem_cons_self ..))
    · rw [List.concat_eq_append] at hadm hsub hend
      rw [endpoint_append_singleton] at hend
      have he := (isPath_append_singleton.1 hadm.path).2
      refine ⟨init, hadm.of_append, fun w hw => ?_, List.ne_nil_of_mem he⟩
      have hmem := hsub hw
      rw [vertices_append, List.mem_append] at hmem
      refine hmem.resolve_right fun hlast => hleaves w hw ?_
      rw [List.mem_singleton.1 hlast]
      exact hend
  · exact ⟨spine, hadm, hsub, hend⟩

theorem simple_graph_iff {p : Plan V L} (h : p.Valid g root) {steps : List (V × L)} :
    Simple (p.graph g root) root steps ↔
      (∀ d ∈ legs root steps, d ∈ p.edges g root) ∧ (vertices root steps).Nodup := by
  have hpath : IsPath (p.graph g root) root steps ↔ ∀ d ∈ legs root steps, d ∈ p.edges g root := by
    rw [isPath_iff_legs]
    exact forall₂_congr fun d _ => h.mem_edges_graph
  exact ⟨fun hs => ⟨hpath.1 hs.path, hs.distinct⟩, fun hs => ⟨hpath.2 hs.1, hs.2⟩⟩

/-- The simple paths in the graphs of plans are the covered ones. -/
theorem exists_simple_graph {steps : List (V × L)} (hne : steps ≠ []) :
    (∃ p : Plan V L, p.Valid g root ∧ Simple (p.graph g root) root steps) ↔ Covered g root steps := by
  constructor
  · rintro ⟨p, hp, hs⟩
    obtain ⟨hlegs, hnd⟩ := (simple_graph_iff hp).1 hs
    refine ⟨⟨isPath_iff_legs.2 fun d hd => (hp.mem_edges (hlegs d hd)).1, hnd⟩, p.steps, hp.admissible, fun w hw => ?_⟩
    obtain ⟨d, hd, rfl⟩ := List.mem_map.1 hw
    exact (hp.mem_edges (hlegs d hd)).2
  · intro h
    obtain ⟨spine, hadm, hsub, hout⟩ := h.exists_spine hne
    have hvalid := valid_spanning hadm hout
    refine ⟨_, hvalid, (simple_graph_iff hvalid).2 ⟨fun d hd => ?_, h.simple.distinct⟩⟩
    exact (mem_edges_spanning hadm.path).2
      ⟨isPath_iff_legs.1 h.simple.path d hd, hsub (List.mem_map_of_mem hd)⟩

/-! ## Both outputs -/

theorem mem_allSubgraphs {c : Graph V L} {window : Option DepthWindow} :
    c ∈ allSubgraphs g window ↔
      ∃ root, ∃ p : Plan V L, p.Valid g root ∧ reported window p.depth ∧ p.graph g root = c := by
  have hplan : ∀ (root : V) (p : Plan V L), p ∈ plans g root {root} ↔ p.Valid g root := by
    intro root p
    rw [mem_plans (Finset.mem_singleton_self root)]
    exact and_iff_left_of_imp fun h => (continues_root.2 h.admissible).2
  have hroot : ∀ root, c ∈ results (subgraphs g window root (unvisited g {root}) .empty 1) ↔
      ∃ p : Plan V L, p.Valid g root ∧ reported window p.depth ∧ p.graph g root = c := by
    intro root
    refine (results_subgraphs_perm_plans g window root {root} [] 1).mem_iff.trans ?_
    simp only [List.mem_map, List.mem_filter, hplan, Nat.add_comm 1, and_assoc]
    rfl
  have hall : allSubgraphs g window = g.vertices.flatMap fun root =>
      results (subgraphs g window root (unvisited g {root}) .empty 1) := by
    simp [allSubgraphs, subgraphEvents, fromRoots, results_flatMap, results_next, Event.value?, unvisited_root]
  rw [hall, List.mem_flatMap]
  refine exists_congr fun root => ?_
  rw [hroot]
  refine and_iff_right_of_imp ?_
  rintro ⟨p, hp, -⟩
  exact hp.root_mem

/-- What some of the label sequences begin with. -/
def beginnings (ts : List (List L)) : Set (List L) := {t | t ≠ [] ∧ ∃ s ∈ ts, t <+: s}

/-- What the traces of all subgraphs begin with are the labels of the covered paths. -/
theorem mem_beginnings {t : List L} :
    t ∈ beginnings (combinationTraces g none).flatten ↔
      ∃ root steps, steps ≠ [] ∧ Covered g root steps ∧ steps.map Prod.snd = t := by
  have hwalk : ∀ s, s ∈ (combinationTraces g none).flatten ↔
      ∃ root, ∃ p : Plan V L, p.Valid g root ∧ s ∈ Path.traces (p.graph g root) root := by
    intro s
    simp only [combinationTraces, List.mem_flatten, List.mem_map, exists_exists_and_eq_and, mem_allSubgraphs]
    constructor
    · rintro ⟨_, ⟨root, p, hp, -, rfl⟩, hs⟩
      rw [hp.head_vertices_graph] at hs
      exact ⟨root, p, hp, hs⟩
    · rintro ⟨root, p, hp, hs⟩
      refine ⟨_, ⟨root, p, hp, rfl, rfl⟩, ?_⟩
      rw [hp.head_vertices_graph]
      exact hs
  constructor
  · rintro ⟨hne, s, hs, hpre⟩
    obtain ⟨root, p, hp, hs⟩ := (hwalk s).1 hs
    obtain ⟨steps, hsteps, hsimple, hlabels⟩ := isPrefix_traces.1 ⟨hne, s, hs, hpre⟩
    exact ⟨root, steps, hsteps, (exists_simple_graph hsteps).1 ⟨p, hp, hsimple⟩, hlabels⟩
  · rintro ⟨root, steps, hsteps, hcov, hlabels⟩
    obtain ⟨p, hp, hsimple⟩ := (exists_simple_graph hsteps).2 hcov
    obtain ⟨hne, s, hs, hpre⟩ := isPrefix_traces.2 ⟨steps, hsteps, hsimple, hlabels⟩
    exact ⟨hne, s, (hwalk s).2 ⟨root, p, hp, hs⟩, hpre⟩

/-- Where different edges have different labels, a path with at least one step is known by its labels. -/
theorem path_eq_of_labels (hlabels : (g.edges.map fun d => d.2.2).Nodup) {root' : V} {steps steps' : List (V × L)}
    (h : IsPath g root steps) (h' : IsPath g root' steps') (hne : steps ≠ [])
    (heq : steps.map Prod.snd = steps'.map Prod.snd) : root = root' ∧ steps = steps' := by
  induction steps generalizing root root' steps' with
  | nil => exact absurd rfl hne
  | cons e steps ih =>
    obtain _ | ⟨e', steps'⟩ := steps'
    · cases heq
    · rw [List.map_cons, List.map_cons, List.cons.injEq] at heq
      have hedge : (root, e) = (root', e') :=
        List.inj_on_of_nodup_map hlabels (g.mem_edges.2 h.1) (g.mem_edges.2 h'.1) heq.1
      cases hedge
      refine ⟨rfl, congrArg _ ?_⟩
      by_cases hnil : steps = []
      · subst hnil
        exact (List.map_eq_nil_iff.1 heq.2.symm).symm
      · exact (ih h.2 h'.2 hnil heq.2).2

/-- The traces of all subgraphs, each walked again from its first vertex, begin with the labels of the
covered paths and with nothing else; the traces of the graph are those of the admissible paths, so they
are all among them. The two sets are equal if every covered path is admissible, and where different
edges have different labels only then. -/
theorem beginnings_combinationTraces (g : Graph V L) :
    beginnings (combinationTraces g none).flatten =
        {t | ∃ root steps, steps ≠ [] ∧ Covered g root steps ∧ steps.map Prod.snd = t} ∧
      {t | t ∈ allTraces g none} =
        {t | ∃ root steps, steps ≠ [] ∧ Admissible g root steps ∧ steps.map Prod.snd = t} ∧
      {t | t ∈ allTraces g none} ⊆ beginnings (combinationTraces g none).flatten ∧
      ((∀ root steps, Covered g root steps → Admissible g root steps) →
        beginnings (combinationTraces g none).flatten = {t | t ∈ allTraces g none}) ∧
      ((g.edges.map fun d => d.2.2).Nodup →
        beginnings (combinationTraces g none).flatten = {t | t ∈ allTraces g none} →
        ∀ root steps, Covered g root steps → Admissible g root steps) := by
  have htraces : ∀ t : List L, t ∈ allTraces g none ↔
      ∃ root steps, steps ≠ [] ∧ Admissible g root steps ∧ steps.map Prod.snd = t := fun t =>
    mem_allTraces.trans (and_iff_right rfl)
  have hsub : ∀ t ∈ allTraces g none, t ∈ beginnings (combinationTraces g none).flatten := by
    intro t ht
    obtain ⟨root, steps, hne, hadm, hlabels⟩ := (htraces t).1 ht
    exact mem_beginnings.2 ⟨root, steps, hne, covered_of_admissible hadm, hlabels⟩
  refine ⟨Set.ext fun t => mem_beginnings, Set.ext htraces, hsub, fun hall => ?_, fun hnd heq root steps hcov => ?_⟩
  · refine Set.Subset.antisymm (fun t ht => ?_) hsub
    obtain ⟨root, steps, hne, hcov, hlabels⟩ := mem_beginnings.1 ht
    exact (htraces t).2 ⟨root, steps, hne, hall root steps hcov, hlabels⟩
  · by_cases hne : steps = []
    · subst hne
      exact admissible_nil g root
    · have ht : steps.map Prod.snd ∈ allTraces g none :=
        heq.subset (mem_beginnings.2 ⟨root, steps, hne, hcov, rfl⟩)
      obtain ⟨root', steps', -, hadm, hlabels⟩ := (htraces _).1 ht
      obtain ⟨rfl, rfl⟩ := path_eq_of_labels hnd hcov.simple.path hadm.path hne hlabels.symm
      exact hadm

/-- On the cycle of three vertices no vertex has a choice, so both outputs describe the same paths. -/
theorem beginnings_combinationTraces_cycle :
    let g : Graph Nat Nat := .ofEdges [(0, 1, 7), (1, 2, 8), (2, 0, 9)]
    (∀ root steps, Covered g root steps → Admissible g root steps) ∧
      (g.edges.map fun d => d.2.2).Nodup ∧
      beginnings (combinationTraces g none).flatten = {t | t ∈ allTraces g none} := by
  intro g
  have hone : ∀ v ∈ g.vertices, g.outDegree v ≤ 1 := by decide
  have hall : ∀ root steps, Covered g root steps → Admissible g root steps := fun root steps h =>
    h.simple.admissible hone
  have hnd : (g.edges.map fun d => d.2.2).Nodup := by decide
  obtain ⟨-, -, -, hequal, honly⟩ := beginnings_combinationTraces g
  exact ⟨honly hnd (hequal hall), hnd, hequal hall⟩

/-- Where a shortcut is listed before the way around it, the way around is walked in a subgraph but is
no trace. -/
theorem beginnings_combinationTraces_shortcut :
    let g : Graph Nat Nat := .ofEdges [(0, 2, 7), (0, 1, 8), (1, 2, 9)]
    ¬ beginnings (combinationTraces g none).flatten = {t | t ∈ allTraces g none} := by
  intro g heq
  -- the way around leaves the vertices of the admissible path to its middle
  have hspine : Admissible g 0 [(1, 8)] :=
    admissible_cons.2 ⟨⟨[(2, 7)], by decide, by decide⟩, by decide, admissible_nil g 1⟩
  have hcov : Covered g 0 [(1, 8), (2, 9)] := ⟨⟨⟨by decide, by decide, trivial⟩, by decide⟩, _, hspine, by decide⟩
  have htrace : [8, 9] ∈ allTraces g none := heq.subset (mem_beginnings.2 ⟨0, _, by simp, hcov, rfl⟩)
  obtain ⟨-, root, steps, -, hadm, hlabels⟩ := mem_allTraces.1 htrace
  have hnd : (g.edges.map fun d => d.2.2).Nodup := by decide
  obtain ⟨rfl, rfl⟩ := path_eq_of_labels hnd hcov.simple.path hadm.path (by simp) hlabels.symm
  -- but its end is listed before its middle
  exact hadm.direct 0 2 0 1 2 (by decide) rfl rfl rfl ⟨([(2, 7)], (1, 8)), by decide, rfl, by decide⟩

end StateTraces.Enumeration
