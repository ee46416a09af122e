import Mathlib.Data.List.Perm.Basic
import StateTraces.Proofs.Enumeration.Branch

/-
The subgraphs of a root are the graphs of its plans. A plan follows an admissible path, takes a
number of out-edges at each vertex that it leaves, and a non-empty subset of them at the vertex
where it ends. The search goes through every plan exactly once, and reports its graph if the window
lets the number of vertices on the path through.
-/

namespace StateTraces.Enumeration

open StateTraces.Path

variable {V L : Type}

/-! ## Plans -/

/-- What is taken along a path: at each vertex that is left, a number of out-edges and the edge that
is followed; at the vertex where the path ends, some of its out-edges. -/
structure Plan (V L : Type) where
  hops : List (Nat × (V × L))
  last : List (V × L)

/-- The vertex where steps from `root` end. -/
def endpoint (root : V) (steps : List (V × L)) : V := (entered steps).getLastD root

theorem endpoint_cons (root : V) (e : V × L) (steps : List (V × L)) :
    endpoint root (e :: steps) = endpoint e.1 steps := by
  cases steps <;> rfl

namespace Plan

def steps (p : Plan V L) : List (V × L) := p.hops.map Prod.snd

/-- The number of vertices on the path. -/
def depth (p : Plan V L) : Nat := p.hops.length + 1

/-- The plan that goes one hop before it follows `p`. -/
def after (hop : Nat × (V × L)) (p : Plan V L) : Plan V L := ⟨hop :: p.hops, p.last⟩

theorem after_injective (hop : Nat × (V × L)) : Function.Injective (after hop) := by
  rintro ⟨hops, last⟩ ⟨hops', last'⟩ h
  simp only [after, mk.injEq, List.cons.injEq, true_and] at h
  rw [h.1, h.2]

end Plan

variable [DecidableEq V]

/-- The out-edges taken at a vertex that is left: the first `size` of them if the edge followed is
among these, else one fewer and the edge itself. -/
def taken (edges : List (V × L)) (size : Nat) (e : V × L) : List (V × L) :=
  if e.1 ∈ entered (edges.take size) then edges.take size else edges.take (size - 1) ++ [e]

/-- The edges taken along a path from `v`, and then the last ones. -/
def edgesAlong (g : Graph V L) : V → List (Nat × (V × L)) → List (V × L) → List (V × V × L)
  | v, [], last => last.map (v, ·)
  | v, (size, e) :: hops, last =>
    (taken (g.outEdges v) size e).map (v, ·) ++ edgesAlong g e.1 hops last

/-- Every size is one of a choice of out-edges at the vertex that is left. -/
def Sized (g : Graph V L) : V → List (Nat × (V × L)) → Prop
  | _, [] => True
  | v, (size, e) :: hops => (1 ≤ size ∧ size ≤ g.outDegree v) ∧ Sized g e.1 hops

namespace Plan

/-- The edges that a plan takes from `root`. -/
def edges (g : Graph V L) (root : V) (p : Plan V L) : List (V × V × L) := edgesAlong g root p.hops p.last

/-- The graph of a plan: its edges and their ends, in order of first mention. -/
def graph (g : Graph V L) (root : V) (p : Plan V L) : Graph V L := .ofEdges (p.edges g root)

/-- A plan that can be carried out from `root`. -/
structure Valid (g : Graph V L) (root : V) (p : Plan V L) : Prop where
  admissible : Admissible g root p.steps
  sized : Sized g root p.hops
  subset : p.last.Sublist (g.outEdges (endpoint root p.steps))
  nonempty : p.last ≠ []

end Plan

/-- The first choice that holds an edge is what a plan takes when it follows the edge. -/
theorem firstChoice_eq_taken {edges : List (V × L)} (h : (edges.map Prod.fst).Nodup) (size : Nat)
    {p : List (V × L) × (V × L)} (hp : p ∈ splits edges) :
    firstChoice edges size p = taken edges size p.2 := by
  obtain ⟨before, e⟩ := p
  obtain ⟨later, rfl⟩ := mem_splits.1 hp
  have hiff : before.length < size ↔ e.1 ∈ entered ((before ++ e :: later).take size) := by
    constructor
    · intro hlt
      obtain ⟨n, rfl⟩ : ∃ n, size = before.length + (n + 1) := ⟨size - before.length - 1, by omega⟩
      simp [entered, List.take_append]
    · intro hmem
      by_contra hle
      rw [List.take_append_of_le_length (Nat.le_of_not_lt hle)] at hmem
      have hbefore : e.1 ∈ before.map Prod.fst := ((List.take_sublist _ _).map _).subset hmem
      rw [List.map_append, List.nodup_append] at h
      exact h.2.2 _ hbefore _ (List.mem_cons_self ..) rfl
  simp only [firstChoice, taken, hiff]

/-! ## The plans of a branch -/

/-- The plans below a vertex that enter no visited vertex, in the order of their sizes and targets. -/
def plans (g : Graph V L) (v : V) (visited : Finset V) : List (Plan V L) :=
  (Subset.nonEmpty (g.outEdges v)).toList.map (fun c => ⟨[], c⟩) ++
    (List.range' 1 (g.outDegree v)).flatMap fun size =>
      (splits (g.outEdges v)).attach.flatMap fun ⟨p, _⟩ =>
        if p.2.1 ∈ visited then []
        else (plans g p.2.1 (visitedThrough visited p)).map (Plan.after (size, p.2))
termination_by (unvisited g visited).length
decreasing_by exact unvisited_length_lt ‹_› ‹_›

theorem plans_eq (g : Graph V L) (v : V) (visited : Finset V) :
    plans g v visited = (Subset.nonEmpty (g.outEdges v)).toList.map (fun c => ⟨[], c⟩) ++
      (List.range' 1 (g.outDegree v)).flatMap fun size =>
        (splits (g.outEdges v)).flatMap fun p =>
          if p.2.1 ∈ visited then []
          else (plans g p.2.1 (visitedThrough visited p)).map (Plan.after (size, p.2)) := by
  rw [plans]
  congr 2
  funext size
  conv_rhs => rw [← List.unattach_attach (l := splits (g.outEdges v))]
  exact List.flatMap_subtype fun _ _ => rfl

theorem mem_plans_nil {g : Graph V L} {v : V} {visited : Finset V} {last : List (V × L)} :
    ⟨[], last⟩ ∈ plans g v visited ↔ last.Sublist (g.outEdges v) ∧ last ≠ [] := by
  rw [plans_eq, List.mem_append, List.mem_map]
  constructor
  · rintro (⟨c, hc, he⟩ | hmem)
    · cases he; exact Subset.mem_nonEmpty.1 hc
    · obtain ⟨size, -, hmem⟩ := List.mem_flatMap.1 hmem
      obtain ⟨p, -, hmem⟩ := List.mem_flatMap.1 hmem
      split at hmem
      · cases hmem
      · simp [Plan.after] at hmem
  · intro h
    exact .inl ⟨last, Subset.mem_nonEmpty.2 h, rfl⟩

theorem mem_plans_cons {g : Graph V L} {v : V} {visited : Finset V} {size : Nat} {e : V × L}
    {hops : List (Nat × (V × L))} {last : List (V × L)} :
    ⟨(size, e) :: hops, last⟩ ∈ plans g v visited ↔ (1 ≤ size ∧ size ≤ g.outDegree v) ∧
      ∃ p ∈ splits (g.outEdges v), p.2 = e ∧ e.1 ∉ visited ∧
        ⟨hops, last⟩ ∈ plans g e.1 (visitedThrough visited p) := by
  rw [plans_eq, List.mem_append, List.mem_map]
  constructor
  · rintro (⟨c, hc, he⟩ | hmem)
    · cases he
    · obtain ⟨n, hn, hmem⟩ := List.mem_flatMap.1 hmem
      obtain ⟨p, hp, hmem⟩ := List.mem_flatMap.1 hmem
      split at hmem
      · cases hmem
      · rename_i hfresh
        obtain ⟨q, hq, he⟩ := List.mem_map.1 hmem
        simp only [Plan.after, Plan.mk.injEq, List.cons.injEq, Prod.mk.injEq] at he
        obtain ⟨⟨⟨rfl, rfl⟩, rfl⟩, rfl⟩ := he
        have := List.mem_range'_1.1 hn
        exact ⟨by omega, p, hp, rfl, hfresh, hq⟩
  · rintro ⟨hsize, p, hp, rfl, hfresh, hmem⟩
    refine .inr (List.mem_flatMap.2 ⟨size, List.mem_range'_1.2 (by omega), List.mem_flatMap.2 ⟨p, hp, ?_⟩⟩)
    rw [if_neg hfresh]
    exact List.mem_map.2 ⟨_, hmem, rfl⟩

/-- The plans of a branch are the valid ones whose path continues it. -/
theorem mem_plans {g : Graph V L} {v : V} {visited : Finset V} (hv : v ∈ visited) {p : Plan V L} :
    p ∈ plans g v visited ↔ p.Valid g v ∧ ∀ w ∈ entered p.steps, w ∉ visited := by
  obtain ⟨hops, last⟩ := p
  induction hops generalizing v visited with
  | nil =>
    rw [mem_plans_nil]
    constructor
    · rintro ⟨hsub, hne⟩
      exact ⟨⟨admissible_nil g v, trivial, hsub, hne⟩, fun _ h => absurd h List.not_mem_nil⟩
    · rintro ⟨h, -⟩
      exact ⟨h.subset, h.nonempty⟩
  | cons hop hops ih =>
    obtain ⟨size, e⟩ := hop
    have hmem : ∀ p : List (V × L) × (V × L), p.2 = e → e.1 ∈ visitedThrough visited p := fun p he =>
      mem_visitedThrough.2 (.inr (.inr (by rw [he])))
    have hend : endpoint v (e :: hops.map Prod.snd) = endpoint e.1 (hops.map Prod.snd) := endpoint_cons ..
    rw [mem_plans_cons]
    constructor
    · rintro ⟨hsize, p, hp, he, hfresh, hplan⟩
      obtain ⟨hvalid, havoid⟩ := (ih (hmem p he)).1 hplan
      obtain ⟨hadm, hav⟩ := (continues_cons hv).2 ⟨p, hp, he, hfresh, hvalid.admissible, havoid⟩
      exact ⟨⟨hadm, ⟨hsize, hvalid.sized⟩, hend ▸ hvalid.subset, hvalid.nonempty⟩, hav⟩
    · rintro ⟨hvalid, hav⟩
      obtain ⟨p, hp, he, hfresh, hadm, havoid⟩ := (continues_cons hv).1 ⟨hvalid.admissible, hav⟩
      exact ⟨hvalid.sized.1, p, hp, he, hfresh,
        (ih (hmem p he)).2 ⟨⟨hadm, hvalid.sized.2, hend ▸ hvalid.subset, hvalid.nonempty⟩, havoid⟩⟩

theorem nodup_plans (g : Graph V L) (v : V) (visited : Finset V) : (plans g v visited).Nodup := by
  have hedges : (g.outEdges v).Nodup := (g.nodup_outEdges v).of_map
  have hhead : ∀ (size : Nat) (p : List (V × L) × (V × L)) (q : Plan V L),
      (q ∈ if p.2.1 ∈ visited then []
        else (plans g p.2.1 (visitedThrough visited p)).map (Plan.after (size, p.2))) →
      q.hops.head? = some (size, p.2) := by
    intro size p q hq
    split at hq
    · cases hq
    · obtain ⟨r, -, rfl⟩ := List.mem_map.1 hq; rfl
  rw [plans_eq, List.nodup_append, List.nodup_flatMap]
  refine ⟨?_, ⟨fun size _ => ?_, ?_⟩, ?_⟩
  · exact (Subset.nodup_nonEmpty hedges).map fun c d h => by cases h; rfl
  · rw [List.nodup_flatMap]
    constructor
    · intro p hp
      split
      · exact List.nodup_nil
      · rename_i hfresh
        have := unvisited_length_lt hp hfresh
        exact (nodup_plans g p.2.1 _).map (Plan.after_injective _)
    · -- plans that follow different edges
      refine (nodup_splits hedges).imp_of_mem fun {p q} hp hq hpq r hrp hrq => hpq (split_unique hp hq ?_)
      have := (hhead size p r hrp).symm.trans (hhead size q r hrq)
      simp only [Option.some.injEq, Prod.mk.injEq, true_and] at this
      rw [this]
  · -- plans of different sizes
    refine (List.nodup_range' (s := 1)).imp fun {m n} hmn r hrm hrn => hmn ?_
    obtain ⟨p, -, hp⟩ := List.mem_flatMap.1 hrm
    obtain ⟨q, -, hq⟩ := List.mem_flatMap.1 hrn
    have := (hhead m p r hp).symm.trans (hhead n q r hq)
    simp only [Option.some.injEq, Prod.mk.injEq] at this
    exact this.1
  · -- plans without a hop and plans with one
    intro p hp q hq hpq
    obtain ⟨c, -, rfl⟩ := List.mem_map.1 hp
    obtain ⟨size, -, hq⟩ := List.mem_flatMap.1 hq
    obtain ⟨r, -, hq⟩ := List.mem_flatMap.1 hq
    have := hhead size r q hq
    rw [← hpq] at this
    cases this
termination_by (unvisited g visited).length

/-! ## The search as plans -/

omit [DecidableEq V] in
/-- Up to order, what steps lead to is what the choices lead to and what the entries lead to. -/
theorem flatMap_steps_perm {β : Type} {bound : Nat} {f : Step V L bound → List β}
    {onChoice : List (V × L) → List β} {onEntry : Entry V L → List β}
    (hchoose : ∀ chosen, f (.choose chosen) = onChoice chosen)
    (henter : ∀ chosen target label fresh smaller,
      f (.enter chosen target label fresh smaller) = onEntry ⟨chosen, (target, label), fresh⟩)
    (ss : List (Step V L bound)) :
    (ss.flatMap f).Perm
      ((ss.filterMap Step.choice?).flatMap onChoice ++ (ss.filterMap Step.entered?).flatMap onEntry) := by
  induction ss with
  | nil => exact .refl _
  | cons s ss ih =>
    cases s with
    | choose chosen =>
      simp only [List.flatMap_cons, List.filterMap_cons, Step.choice?_choose, Step.entered?_choose, hchoose,
        List.append_assoc]
      exact ih.append_left _
    | enter chosen target label fresh smaller =>
      simp only [List.flatMap_cons, List.filterMap_cons, Step.choice?_enter, Step.entered?_enter, henter]
      exact (ih.append_left _).trans (List.perm_append_comm_assoc ..)

theorem results_subgraphs (g : Graph V L) (window : Option DepthWindow) (v : V) (fresh : List V)
    (branch : Graph V L) {depth : Nat} (h : within window depth = true) :
    (results (subgraphs g window v fresh branch depth)).Perm
      (((Subset.nonEmpty (g.outEdges v)).toList.flatMap fun c =>
          if reported window depth then [branch.addEdges v c] else []) ++
        (List.range' 1 (g.outDegree v)).flatMap fun size =>
          (groupEntries (g.outEdges v) fresh size).flatMap fun e =>
            results (subgraphs g window e.edge.1 e.fresh (branch.addEdges v e.chosen) (depth + 1))) := by
  rw [subgraphs, if_pos h, results_next, results_flatMap, ← choices_steps (g.outEdges v) fresh,
    ← List.flatMap_assoc, Graph.outDegree, ← entries_steps (g.nodup_outEdges v)]
  refine flatMap_steps_perm (fun chosen => ?_) (fun _ _ _ _ _ => rfl) _
  rw [results_next, results_report]; rfl

/-- On top of the edges taken along the branch, the search yields the graph of every plan whose depth
is reported. -/
theorem results_subgraphs_perm_plans (g : Graph V L) (window : Option DepthWindow) (v : V)
    (visited : Finset V) (es : List (V × V × L)) (depth : Nat) :
    (results (subgraphs g window v (unvisited g visited) (.ofEdges es) depth)).Perm
      (((plans g v visited).filter fun p => reported window (depth + p.hops.length)).map fun p =>
        .ofEdges (es ++ p.edges g v)) := by
  by_cases hwithin : within window depth = true
  · refine (results_subgraphs g window v _ _ hwithin).trans ?_
    rw [plans_eq, List.filter_append, List.map_append]
    refine .append (.of_eq ?_) ?_
    · rw [List.filter_map, List.map_map, ← List.flatMap_pure_eq_map, flatMap_filter]
      exact List.flatMap_congr fun c _ => by rw [← Graph.ofEdges_append]; rfl
    · rw [List.filter_flatMap, List.map_flatMap]
      refine .flatMap_left _ fun size _ => ?_
      rw [flatMap_groupEntries, List.filter_flatMap, List.map_flatMap]
      refine .flatMap_left _ fun p hp => ?_
      split
      · exact .refl _
      · rename_i hfresh
        have := unvisited_length_lt hp hfresh
        -- the child searches on top of what is taken here as well
        have hchild := results_subgraphs_perm_plans g window p.2.1 (visitedThrough visited p)
          (es ++ (taken (g.outEdges v) size p.2).map (v, ·)) (depth + 1)
        rw [firstChoice_eq_taken (g.nodup_outEdges v) size hp, ← Graph.ofEdges_append]
        refine hchild.trans (.of_eq ?_)
        rw [List.filter_map, List.map_map]
        simp only [Function.comp_def, Plan.after, Plan.edges, edgesAlong, List.length_cons, List.append_assoc,
          Nat.add_assoc, Nat.add_comm 1]
  · -- a plan is at least as deep as the branch, and nothing from here on is reported
    rw [subgraphs, if_neg hwithin, List.filter_eq_nil_iff.2 fun p _ => by
      rw [not_reported_of_not_within hwithin (Nat.le_add_right ..)]; decide]
    exact .refl _
termination_by (unvisited g visited).length

/-! ## The graph of a plan -/

theorem nodup_taken {edges : List (V × L)} (h : (edges.map Prod.fst).Nodup) (size : Nat) (e : V × L) :
    (entered (taken edges size e)).Nodup := by
  have htake : ∀ n, (entered (edges.take n)).Nodup := fun n => h.sublist ((List.take_sublist ..).map _)
  unfold taken
  split
  · exact htake size
  · rename_i hnot
    have hless : (edges.take (size - 1)).Sublist (edges.take size) := List.take_sublist_take_left (Nat.sub_le ..)
    rw [entered, List.map_append, List.nodup_append]
    refine ⟨htake _, List.nodup_singleton _, fun a ha b hb hab => hnot ?_⟩
    rw [List.map_singleton, List.mem_singleton] at hb
    rw [← hb, ← hab]
    exact (hless.map _).subset ha

theorem source_mem_vertices {g : Graph V L} {v : V} {hops : List (Nat × (V × L))} {last : List (V × L)}
    {d : V × V × L} (h : d ∈ edgesAlong g v hops last) : d.1 ∈ vertices v (hops.map Prod.snd) := by
  induction hops generalizing v with
  | nil =>
    obtain ⟨e, -, rfl⟩ := List.mem_map.1 h
    exact List.mem_cons_self ..
  | cons hop hops ih =>
    obtain ⟨size, e⟩ := hop
    rcases List.mem_append.1 h with h | h
    · obtain ⟨c, -, rfl⟩ := List.mem_map.1 h
      exact List.mem_cons_self ..
    · exact List.mem_cons_of_mem _ (ih h)

/-- On a path of distinct vertices, no pair of vertices is joined twice. -/
theorem nodup_edgesAlong {g : Graph V L} {v : V} {hops : List (Nat × (V × L))} {last : List (V × L)}
    (hnd : (vertices v (hops.map Prod.snd)).Nodup)
    (hlast : last.Sublist (g.outEdges (endpoint v (hops.map Prod.snd)))) :
    ((edgesAlong g v hops last).map fun d => (d.1, d.2.1)).Nodup := by
  have hsame : ∀ (v : V) (c : List (V × L)), (entered c).Nodup →
      ((c.map fun e => (v, e)).map fun d => (d.1, d.2.1)).Nodup := by
    intro v c hc
    rw [List.map_map, show (fun d : V × V × L => (d.1, d.2.1)) ∘ (fun e => (v, e)) = (v, ·) ∘ Prod.fst from rfl,
      ← List.map_map]
    exact hc.map (Prod.mk_right_injective v)
  induction hops generalizing v with
  | nil => exact hsame v last ((g.nodup_outEdges v).sublist (hlast.map _))
  | cons hop hops ih =>
    obtain ⟨size, e⟩ := hop
    obtain ⟨hroot, hrest⟩ := List.nodup_cons.1 hnd
    rw [List.map_cons, endpoint_cons] at hlast
    rw [edgesAlong, List.map_append, List.nodup_append]
    refine ⟨hsame v _ (nodup_taken (g.nodup_outEdges v) size e), ih hrest hlast, ?_⟩
    -- the vertex that is left here is not left again
    intro a ha b hb hab
    simp only [List.map_map, List.mem_map, Function.comp_apply] at ha hb
    obtain ⟨c, -, rfl⟩ := ha
    obtain ⟨d, hd, rfl⟩ := hb
    have hv : v = d.1 := congrArg Prod.fst hab
    exact hroot (hv ▸ source_mem_vertices hd)

namespace Plan.Valid

variable {g : Graph V L} {root : V} {p : Plan V L}

theorem mem_edges_graph (h : p.Valid g root) {d : V × V × L} :
    d ∈ (p.graph g root).edges ↔ d ∈ p.edges g root :=
  Graph.mem_edges_ofEdges (nodup_edgesAlong h.admissible.distinct h.subset)

theorem head_edges (h : p.Valid g root) : ∃ e es, p.edges g root = (root, e) :: es := by
  obtain ⟨hops, last⟩ := p
  cases hops with
  | nil =>
    obtain ⟨e, es, he⟩ := List.exists_cons_of_ne_nil h.nonempty
    cases he
    exact ⟨e, es.map (root, ·), rfl⟩
  | cons hop hops =>
    obtain ⟨size, e⟩ := hop
    have hne : taken (g.outEdges root) size e ≠ [] := by
      unfold taken
      split
      · rename_i hmem
        rintro hnil
        rw [hnil] at hmem
        cases hmem
      · simp
    obtain ⟨c, cs, hc⟩ := List.exists_cons_of_ne_nil hne
    exact ⟨c, _, by simp only [Plan.edges, edgesAlong, hc, List.map_cons, List.cons_append]; rfl⟩

theorem head_vertices_graph (h : p.Valid g root) : (p.graph g root).vertices.head? = some root := by
  obtain ⟨e, es, he⟩ := h.head_edges
  rw [Plan.graph, Graph.vertices_ofEdges, he, List.flatMap_cons, List.cons_append, List.eraseDups_cons]
  rfl

end Plan.Valid

/-! ## The whole run -/

/-- The run yields, root by root, the graphs of the valid plans whose depth the window reports, each
plan once; the graph of a plan holds its edges and their ends, the root first. -/
theorem subgraphs_perm_plans (g : Graph V L) (window : Option DepthWindow) :
    allSubgraphs g window = (g.vertices.flatMap fun root =>
      results (subgraphs g window root (g.vertices.filter (· ≠ root)) .empty 1)) ∧
    ∀ root : V, ∃ ps : List (Plan V L), ps.Nodup ∧
      (∀ p, p ∈ ps ↔ p.Valid g root ∧ reported window p.depth) ∧
      (results (subgraphs g window root (g.vertices.filter (· ≠ root)) .empty 1)).Perm
        (ps.map (Plan.graph g root)) ∧
      ∀ p ∈ ps, (∀ d, d ∈ (p.graph g root).edges ↔ d ∈ p.edges g root) ∧
        (p.graph g root).vertices = ((p.edges g root).flatMap fun d => [d.1, d.2.1]).eraseDups ∧
        (p.graph g root).vertices.head? = some root := by
  refine ⟨?_, fun root => ?_⟩
  · simp [allSubgraphs, subgraphEvents, fromRoots, results_flatMap, results_next, Event.value?]
  · have hmem : ∀ p, p ∈ (plans g root {root}).filter (fun p => reported window p.depth) ↔
        p.Valid g root ∧ reported window p.depth := by
      intro p
      rw [List.mem_filter, mem_plans (Finset.mem_singleton_self root)]
      refine and_congr_left fun _ => ⟨And.left, fun h => ⟨h, ?_⟩⟩
      exact (continues_root.2 h.admissible).2
    refine ⟨_, (nodup_plans g root {root}).filter _, hmem, ?_, fun p hp => ?_⟩
    · have hperm := results_subgraphs_perm_plans g window root {root} [] 1
      simp only [Nat.add_comm 1] at hperm
      rw [← unvisited_root]
      exact hperm
    · have hvalid := ((hmem p).1 hp).1
      exact ⟨fun d => hvalid.mem_edges_graph, Graph.vertices_ofEdges _, hvalid.head_vertices_graph⟩

end StateTraces.Enumeration
