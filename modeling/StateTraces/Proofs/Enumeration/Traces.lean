import Mathlib.Algebra.BigOperators.Finprod
import StateTraces.Proofs.Enumeration.Walk

/-
The traces of a root are its admissible paths. A route is what the walk follows when it goes through
each block once: the routes of a root are exactly its admissible paths with at least one step, each
once. A trace is found once for every route with its labels and every choice of sizes on the way,
one for each vertex that is left.
-/

namespace StateTraces.Enumeration

open StateTraces.Path

variable {V L : Type} [DecidableEq V]

/-! ## Routes -/

/-- The paths that the walk follows below a vertex, when it goes through each block once. -/
def routes (g : Graph V L) (v : V) (visited : Finset V) : List (List (V × L)) :=
  (splits (g.outEdges v)).attach.flatMap fun ⟨p, _⟩ =>
    if p.2.1 ∈ visited then []
    else [p.2] :: (routes g p.2.1 (visitedThrough visited p)).map (p.2 :: ·)
termination_by (unvisited g visited).length
decreasing_by exact unvisited_length_lt ‹_› ‹_›

theorem routes_eq (g : Graph V L) (v : V) (visited : Finset V) :
    routes g v visited = (splits (g.outEdges v)).flatMap fun p =>
      if p.2.1 ∈ visited then []
      else [p.2] :: (routes g p.2.1 (visitedThrough visited p)).map (p.2 :: ·) := by
  rw [routes]
  conv_rhs => rw [← List.unattach_attach (l := splits (g.outEdges v))]
  exact List.flatMap_subtype fun _ _ => rfl

theorem mem_routes_cons {g : Graph V L} {v : V} {visited : Finset V} {e : V × L} {steps : List (V × L)} :
    e :: steps ∈ routes g v visited ↔ ∃ p ∈ splits (g.outEdges v), p.2 = e ∧ e.1 ∉ visited ∧
      (steps = [] ∨ steps ∈ routes g e.1 (visitedThrough visited p)) := by
  rw [routes_eq]
  simp only [List.mem_flatMap]
  constructor
  · rintro ⟨p, hp, hmem⟩
    split at hmem
    · cases hmem
    · rename_i hfresh
      simp only [List.mem_cons, List.cons.injEq, List.mem_map] at hmem
      rcases hmem with ⟨rfl, rfl⟩ | ⟨s, hs, rfl, rfl⟩
      · exact ⟨p, hp, rfl, hfresh, .inl rfl⟩
      · exact ⟨p, hp, rfl, hfresh, .inr hs⟩
  · rintro ⟨p, hp, rfl, hfresh, h⟩
    refine ⟨p, hp, ?_⟩
    rw [if_neg hfresh]
    rcases h with rfl | h
    · exact List.mem_cons_self ..
    · exact List.mem_cons_of_mem _ (List.mem_map_of_mem h)

theorem nil_not_mem_routes (g : Graph V L) (v : V) (visited : Finset V) : [] ∉ routes g v visited := by
  rw [routes_eq, List.mem_flatMap]
  rintro ⟨p, -, hmem⟩
  split at hmem
  · cases hmem
  · simp at hmem

/-- The routes are the paths with at least one step that continue the branch. -/
theorem mem_routes {g : Graph V L} {v : V} {visited : Finset V} (hv : v ∈ visited) {steps : List (V × L)} :
    steps ∈ routes g v visited ↔ steps ≠ [] ∧ Continues g visited v steps := by
  induction steps generalizing v visited with
  | nil => simp [nil_not_mem_routes]
  | cons e steps ih =>
    rw [mem_routes_cons, continues_cons hv]
    simp only [ne_eq, reduceCtorEq, not_false_eq_true, true_and]
    refine exists_congr fun p => and_congr_right fun _ => and_congr_right fun he => and_congr_right fun _ => ?_
    rw [ih (mem_visitedThrough.2 (.inr (.inr (by rw [he]))))]
    constructor
    · rintro (rfl | ⟨-, h⟩)
      · exact continues_nil ..
      · exact h
    · intro h
      by_cases hnil : steps = []
      · exact .inl hnil
      · exact .inr ⟨hnil, h⟩

theorem nodup_routes (g : Graph V L) (v : V) (visited : Finset V) : (routes g v visited).Nodup := by
  rw [routes_eq, List.nodup_flatMap]
  constructor
  · intro p hp
    split
    · exact List.nodup_nil
    · rename_i hfresh
      have := unvisited_length_lt hp hfresh
      refine List.nodup_cons.2 ⟨fun hmem => ?_, (nodup_routes g p.2.1 _).map List.cons_injective⟩
      obtain ⟨s, hs, he⟩ := List.mem_map.1 hmem
      cases he
      exact nil_not_mem_routes g _ _ hs
  · -- routes of different blocks begin with different edges
    have hnd := nodup_splits (g.nodup_outEdges v).of_map
    refine hnd.imp_of_mem fun {p q} hp hq hpq s hsp hsq => hpq (split_unique hp hq ?_)
    have hhead : ∀ (r : List (V × L) × (V × L)), s ∈ (if r.2.1 ∈ visited then []
        else [r.2] :: (routes g r.2.1 (visitedThrough visited r)).map (r.2 :: ·)) → s.head? = some r.2 := by
      intro r hr
      split at hr
      · cases hr
      · rcases List.mem_cons.1 hr with rfl | hr
        · rfl
        · obtain ⟨t, -, rfl⟩ := List.mem_map.1 hr; rfl
    rw [Option.some.inj ((hhead p hsp).symm.trans (hhead q hsq))]
termination_by (unvisited g visited).length

theorem admissible_iff_mem_routes {g : Graph V L} {root : V} {steps : List (V × L)} :
    Admissible g root steps ↔ steps = [] ∨ steps ∈ routes g root {root} := by
  rw [mem_routes (Finset.mem_singleton_self root), continues_root]
  constructor
  · intro h
    exact (eq_or_ne steps []).imp_right fun hne => ⟨hne, h⟩
  · rintro (rfl | ⟨-, h⟩)
    · exact admissible_nil g root
    · exact h

theorem finite_admissible (g : Graph V L) (root : V) : {steps | Admissible g root steps}.Finite := by
  classical
  refine (([] :: routes g root {root}).toFinset.finite_toSet).subset fun steps h => ?_
  simpa using admissible_iff_mem_routes.1 h

/-! ## Counting traces -/

/-- The number of choices of sizes along a path: one size for each vertex that is left. -/
def multiplicity (g : Graph V L) (root : V) (steps : List (V × L)) : Nat :=
  ((vertices root steps).dropLast.map g.outDegree).prod

theorem multiplicity_nil (g : Graph V L) (root : V) : multiplicity g root [] = 1 := rfl

theorem multiplicity_cons (g : Graph V L) (root : V) (e : V × L) (steps : List (V × L)) :
    multiplicity g root (e :: steps) = g.outDegree root * multiplicity g e.1 steps := by
  rw [multiplicity, vertices_cons, List.dropLast_cons_of_ne_nil (by simp [vertices]), List.map_cons,
    List.prod_cons]
  rfl

theorem multiplicity_pos {g : Graph V L} {root : V} {steps : List (V × L)} (h : IsPath g root steps) :
    0 < multiplicity g root steps := by
  induction steps generalizing root with
  | nil => exact Nat.one_pos
  | cons e steps ih =>
    rw [multiplicity_cons]
    exact Nat.mul_pos (List.length_pos_of_mem h.1) (ih h.2)

section Count

variable [DecidableEq L]

/-- What a route adds to the number of times a trace is found below `path`. -/
def share (g : Graph V L) (window : Option DepthWindow) (path t : List L) (v : V) (steps : List (V × L)) :
    Nat :=
  if path ++ steps.map Prod.snd = t ∧ reported window t.length then multiplicity g v steps else 0

theorem share_cons (g : Graph V L) (window : Option DepthWindow) (path t : List L) (v : V) (e : V × L)
    (steps : List (V × L)) :
    share g window path t v (e :: steps) =
      g.outDegree v * share g window (path ++ [e.2]) t e.1 steps := by
  rw [share, share, List.map_cons, List.append_assoc, List.singleton_append, multiplicity_cons]
  split <;> simp

theorem count_report (window : Option DepthWindow) (g : Graph V L) (v : V) (path t : List L) :
    (if reported window path.length then [path] else []).count t = share g window path t v [] := by
  rw [share, List.map_nil, List.append_nil, multiplicity_nil]
  by_cases h : path = t
  · subst h; split <;> simp [*]
  · have hno : ¬ (path = t ∧ reported window t.length = true) := fun hp => h hp.1
    rw [if_neg hno]
    split <;> simp [h]

/-- The depth of a search is one more than the number of labels it has. -/
theorem count_walk (g : Graph V L) (window : Option DepthWindow) (v : V) (visited : Finset V)
    (path t : List L) :
    (walk g window g.outDegree v visited path (path.length + 1)).count t =
      ((routes g v visited).map (share g window path t v)).sum := by
  rw [walk_eq]
  split
  · rw [List.count_flatten, List.map_replicate, List.sum_replicate_nat, List.count_flatMap, routes_eq,
      List.map_flatMap, List.flatMap_def, List.sum_flatten, List.map_map, ← List.sum_map_mul_left]
    congr 1
    refine List.map_congr_left fun p hp => ?_
    simp only [Function.comp_apply]
    split
    · rfl
    · rename_i hfresh
      have := unvisited_length_lt hp hfresh
      -- each route of the child is one of this vertex with the edge in front
      have hchild := count_walk g window p.2.1 (visitedThrough visited p) (path ++ [p.2.2]) t
      have hreport := count_report window g p.2.1 (path ++ [p.2.2]) t
      rw [List.length_append, List.length_singleton] at hchild hreport
      rw [List.count_append, hreport, hchild, List.map_cons, List.sum_cons, List.map_map, share_cons,
        Nat.mul_add, ← List.sum_map_mul_left]
      simp only [Function.comp_def, share_cons]
  · -- nothing below here is reported: a route makes the trace at least one label longer
    rename_i hwithin
    rw [List.count_nil, eq_comm]
    refine List.sum_eq_zero fun n hn => ?_
    obtain ⟨steps, hsteps, rfl⟩ := List.mem_map.1 hn
    have hpos : 0 < steps.length := List.length_pos_of_ne_nil fun h => nil_not_mem_routes g v visited (h ▸ hsteps)
    refine if_neg ?_
    rintro ⟨rfl, hrep⟩
    rw [not_reported_of_not_within hwithin (by simp; omega)] at hrep
    cases hrep
termination_by (unvisited g visited).length

/-- The run yields, root by root, each trace that its length lets through as often as its admissible
paths have choices of sizes, and nothing else. -/
theorem count_traces (g : Graph V L) (window : Option DepthWindow) :
    allTraces g window = (g.vertices.flatMap fun root =>
      results (traces g window root (g.vertices.filter (· ≠ root)) [] 1)) ∧
    ∀ (root : V) (t : List L),
      {steps | Admissible g root steps}.Finite ∧
      (results (traces g window root (g.vertices.filter (· ≠ root)) [] 1)).count t =
        if t ≠ [] ∧ reported window t.length then
          ∑ᶠ steps ∈ {steps | Admissible g root steps ∧ steps.map Prod.snd = t},
            ((vertices root steps).dropLast.map g.outDegree).prod
        else 0 := by
  simp only [← unvisited_root]
  refine ⟨allTraces_eq g window, fun root t => ⟨finite_admissible g root, ?_⟩⟩
  rw [results_traces_eq_walk, show (1 : Nat) = ([] : List L).length + 1 from rfl, count_walk,
    ← List.sum_toFinset _ (nodup_routes g root {root})]
  split
  · rename_i ht
    -- a path with labels has at least one step, so it is a route
    have hset : {steps | Admissible g root steps ∧ steps.map Prod.snd = t} =
        ((routes g root {root}).toFinset.filter fun steps => steps.map Prod.snd = t) := by
      ext steps
      rw [Set.mem_ofPred_eq, Finset.mem_coe, Finset.mem_filter, List.mem_toFinset, admissible_iff_mem_routes]
      refine and_congr_left fun hlabels => or_iff_right ?_
      rintro rfl
      exact ht.1 hlabels.symm
    rw [hset, finsum_mem_coe_finset, Finset.sum_filter]
    exact Finset.sum_congr rfl fun steps _ => by simp [share, ht.2, multiplicity]
  · rename_i ht
    refine Finset.sum_eq_zero fun steps hsteps => if_neg ?_
    rintro ⟨hlabels, hrep⟩
    have hempty : t = [] := not_not.1 fun hne => ht ⟨hne, hrep⟩
    rw [List.nil_append, hempty, List.map_eq_nil_iff] at hlabels
    rw [hlabels, List.mem_toFinset] at hsteps
    exact nil_not_mem_routes g root _ hsteps

end Count

/-! ## Which traces there are -/

theorem mem_walk {g : Graph V L} {window : Option DepthWindow} {root : V} {t : List L} :
    t ∈ walk g window g.outDegree root {root} [] 1 ↔ reported window t.length ∧
      ∃ steps, steps ≠ [] ∧ Admissible g root steps ∧ steps.map Prod.snd = t := by
  classical
  have hshare : ∀ steps ∈ routes g root {root}, 0 < share g window [] t root steps ↔
      steps.map Prod.snd = t ∧ reported window t.length := by
    intro steps hsteps
    have hadm := continues_root.1 ((mem_routes (Finset.mem_singleton_self root)).1 hsteps).2
    rw [share, List.nil_append]
    split
    · rename_i h
      exact ⟨fun _ => h, fun _ => multiplicity_pos hadm.path⟩
    · rename_i h
      exact ⟨fun hpos => absurd hpos (Nat.lt_irrefl 0), fun h' => absurd h' h⟩
  rw [← List.count_pos_iff, show (1 : Nat) = ([] : List L).length + 1 from rfl, count_walk,
    List.sum_pos_iff_exists_pos_nat]
  simp only [List.mem_map, exists_exists_and_eq_and]
  constructor
  · rintro ⟨steps, hsteps, hpos⟩
    obtain ⟨hlabels, hrep⟩ := (hshare steps hsteps).1 hpos
    obtain ⟨hne, hcont⟩ := (mem_routes (Finset.mem_singleton_self root)).1 hsteps
    exact ⟨hrep, steps, hne, continues_root.1 hcont, hlabels⟩
  · rintro ⟨hrep, steps, hne, hadm, hlabels⟩
    have hsteps : steps ∈ routes g root {root} :=
      (mem_routes (Finset.mem_singleton_self root)).2 ⟨hne, continues_root.2 hadm⟩
    exact ⟨steps, hsteps, (hshare steps hsteps).2 ⟨hlabels, hrep⟩⟩

/-- The traces are the labels of admissible paths whose length the window reports. -/
theorem mem_allTraces {g : Graph V L} {window : Option DepthWindow} {t : List L} :
    t ∈ allTraces g window ↔ reported window t.length ∧
      ∃ root steps, steps ≠ [] ∧ Admissible g root steps ∧ steps.map Prod.snd = t := by
  rw [allTraces_eq]
  simp only [results_traces_eq_walk, List.mem_flatMap, mem_walk]
  constructor
  · rintro ⟨root, -, hrep, hpath⟩
    exact ⟨hrep, root, hpath⟩
  · rintro ⟨hrep, root, steps, hne, hadm, hlabels⟩
    obtain ⟨e, rest, rfl⟩ := List.exists_cons_of_ne_nil hne
    -- only a vertex of the graph can be left
    have hroot : root ∈ g.vertices := by
      by_contra hout
      have he := hadm.path.1
      rw [Graph.outEdges_of_not_mem hout] at he
      cases he
    exact ⟨root, hroot, hrep, _, hne, hadm, hlabels⟩

end StateTraces.Enumeration
