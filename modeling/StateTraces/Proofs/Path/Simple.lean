import StateTraces.Path
import StateTraces.Proofs.Path.Admissible

/-
Simple paths: paths of distinct vertices, whatever stands before their steps. The traces of a root are
the label sequences of its simple paths that no step prolongs, so what a trace begins with are the
label sequences of all simple paths. Every path is its legs, the edges from each vertex that it leaves;
which graph a path lies in is a matter of its legs alone.
-/

namespace StateTraces.Path

variable {V L : Type}

/-! ## Legs of a path -/

/-- The edges of a path, each with the vertex that it leaves. -/
def legs : V → List (V × L) → List (V × V × L)
  | _, [] => []
  | v, e :: steps => (v, e) :: legs e.1 steps

/-- The vertices that a path leaves: all but its last one. -/
def departed (root : V) (steps : List (V × L)) : List V := (legs root steps).map Prod.fst

theorem departed_cons (root : V) (e : V × L) (steps : List (V × L)) :
    departed root (e :: steps) = root :: departed e.1 steps := rfl

theorem departed_subset (root : V) (steps : List (V × L)) : departed root steps ⊆ vertices root steps := by
  induction steps generalizing root with
  | nil => exact List.nil_subset _
  | cons e steps ih =>
    rw [departed_cons, vertices_cons]
    exact List.cons_subset_cons root (ih e.1)

theorem map_snd_legs (root : V) (steps : List (V × L)) : (legs root steps).map Prod.snd = steps := by
  induction steps generalizing root with
  | nil => rfl
  | cons e steps ih => rw [legs, List.map_cons, ih]

theorem vertices_append (root : V) (steps more : List (V × L)) :
    vertices root (steps ++ more) = vertices root steps ++ entered more := by
  simp [vertices, entered]

variable [DecidableEq V] {g h : Graph V L} {root : V} {steps more : List (V × L)}

theorem isPath_iff_legs : IsPath g root steps ↔ ∀ d ∈ legs root steps, d ∈ g.edges := by
  induction steps generalizing root with
  | nil => simp [IsPath, legs]
  | cons e steps ih =>
    rw [IsPath, ih, legs, List.forall_mem_cons, ← g.mem_edges]

theorem IsPath.of_append (hp : IsPath g root (steps ++ more)) : IsPath g root steps := by
  induction steps generalizing root with
  | nil => trivial
  | cons e steps ih => exact ⟨hp.1, ih hp.2⟩

theorem IsPath.entered_subset (hp : IsPath g root steps) : entered steps ⊆ g.vertices := by
  induction steps generalizing root with
  | nil => simp
  | cons e steps ih => exact List.cons_subset.2 ⟨g.mem_vertices_of_mem_outEdges hp.1, ih hp.2⟩

/-! ## Simple paths -/

/-- A path of distinct vertices. -/
structure Simple (g : Graph V L) (root : V) (steps : List (V × L)) : Prop where
  path : IsPath g root steps
  distinct : (vertices root steps).Nodup

theorem Simple.of_append (hs : Simple g root (steps ++ more)) : Simple g root steps := by
  have hnd := hs.distinct
  rw [vertices_append] at hnd
  exact ⟨hs.path.of_append, (List.nodup_append.1 hnd).1⟩

theorem Admissible.simple (ha : Admissible g root steps) : Simple g root steps := ⟨ha.path, ha.distinct⟩

/-- No edge of a simple path leads back to the vertex that it leaves. -/
theorem Simple.ne_of_mem_legs (hs : Simple g root steps) {d : V × V × L} (hd : d ∈ legs root steps) :
    d.1 ≠ d.2.1 := by
  obtain ⟨hpath, hnd⟩ := hs
  induction steps generalizing root with
  | nil => cases hd
  | cons e steps ih =>
    obtain ⟨hroot, hrest⟩ := List.nodup_cons.1 hnd
    rcases List.mem_cons.1 hd with rfl | hd
    · exact fun heq => hroot (List.mem_cons.2 (.inl heq))
    · exact ih hd hpath.2 hrest

/-- What an admissible path begins with is admissible. -/
theorem Admissible.of_append (ha : Admissible g root (steps ++ more)) : Admissible g root steps := by
  have hlook : ∀ {i : Nat} {v : V},
      (vertices root steps)[i]? = some v → (vertices root (steps ++ more))[i]? = some v := by
    intro i v hi
    rw [vertices_append, List.getElem?_append_left (List.getElem?_eq_some_iff.1 hi).1, hi]
  obtain ⟨hpath, hnd⟩ := ha.simple.of_append
  exact ⟨hpath, hnd, fun i j v u w hij hv hu hw => ha.direct i j v u w hij (hlook hv) (hlook hu) (hlook hw)⟩

/-- A vertex before whose out-neighbour another is listed has at least two of them. -/
theorem ListedBefore.one_lt_outDegree {v w u : V} (hb : ListedBefore g v w u) : 1 < g.outDegree v := by
  obtain ⟨⟨before, e⟩, hp, -, hw⟩ := hb
  obtain ⟨after, hsplit⟩ := mem_splits.1 hp
  have hpos : 0 < before.length := by simpa [entered] using List.length_pos_of_mem hw
  rw [Graph.outDegree, hsplit, List.length_append, List.length_cons]
  omega

/-- Where no vertex has a choice, simple paths are admissible. -/
theorem Simple.admissible (hs : Simple g root steps) (hone : ∀ v ∈ g.vertices, g.outDegree v ≤ 1) :
    Admissible g root steps := by
  refine ⟨hs.path, hs.distinct, fun i j v u w _ _ _ _ hb => ?_⟩
  have hlt := hb.one_lt_outDegree
  have hle : g.outDegree v ≤ 1 := by
    by_cases hv : v ∈ g.vertices
    · exact hone v hv
    · rw [Graph.outDegree, Graph.outEdges_of_not_mem hv]
      exact Nat.zero_le 1
  omega

/-- A path that enters distinct vertices, all of them among those that are fresh. -/
structure FreshPath (g : Graph V L) (fresh : List V) (v : V) (steps : List (V × L)) : Prop where
  path : IsPath g v steps
  distinct : (entered steps).Nodup
  subset : entered steps ⊆ fresh

variable {v : V} {fresh : List V} {e : V × L}

theorem freshPath_nil (g : Graph V L) (fresh : List V) (v : V) : FreshPath g fresh v [] :=
  ⟨trivial, List.nodup_nil, List.nil_subset _⟩

theorem freshPath_cons :
    FreshPath g fresh v (e :: steps) ↔
      (e ∈ g.outEdges v ∧ e.1 ∈ fresh) ∧ FreshPath g (fresh.filter (· ≠ e.1)) e.1 steps := by
  constructor
  · rintro ⟨⟨he, hpath⟩, hnd, hsub⟩
    rw [entered_cons, List.nodup_cons] at hnd
    rw [entered_cons, List.cons_subset] at hsub
    refine ⟨⟨he, hsub.1⟩, hpath, hnd.2, fun w hw => ?_⟩
    have hne : w ≠ e.1 := fun heq => hnd.1 (heq ▸ hw)
    simpa using ⟨hsub.2 hw, hne⟩
  · rintro ⟨⟨he, hfresh⟩, hpath, hnd, hsub⟩
    have hmem : ∀ w ∈ entered steps, w ∈ fresh ∧ w ≠ e.1 := fun w hw => by simpa using hsub hw
    refine ⟨⟨he, hpath⟩, List.nodup_cons.2 ⟨fun hself => (hmem _ hself).2 rfl, hnd⟩, ?_⟩
    exact List.cons_subset.2 ⟨hfresh, fun w hw => (hmem w hw).1⟩

theorem freshPath_root :
    FreshPath g (g.vertices.filter (· ≠ root)) root steps ↔ Simple g root steps := by
  constructor
  · rintro ⟨hpath, hnd, hsub⟩
    refine ⟨hpath, List.nodup_cons.2 ⟨fun hroot => ?_, hnd⟩⟩
    simpa using hsub hroot
  · rintro ⟨hpath, hnd⟩
    obtain ⟨hroot, hnd⟩ := List.nodup_cons.1 hnd
    refine ⟨hpath, hnd, fun w hw => ?_⟩
    have hne : w ≠ root := fun heq => hroot (heq ▸ hw)
    simpa using ⟨hpath.entered_subset hw, hne⟩

/-! ## The maximal ones -/

/-- The out-edges that lead from `v` to fresh vertices. -/
def onward (g : Graph V L) (v : V) (fresh : List V) : List (V × L) :=
  (g.outEdges v).filter fun e => decide (e.1 ∈ fresh)

theorem mem_onward : e ∈ onward g v fresh ↔ e ∈ g.outEdges v ∧ e.1 ∈ fresh := by
  simp [onward]

theorem length_filter_ne_lt (he : e.1 ∈ fresh) : (fresh.filter (· ≠ e.1)).length < fresh.length :=
  Enumeration.length_filter_lt he (by simp) (Nat.le_refl _)

theorem maximal_eq (g : Graph V L) (v : V) (fresh : List V) (labels : List L) :
    maximal g v fresh labels =
      if onward g v fresh = [] then (if labels = [] then [] else [labels])
      else (onward g v fresh).flatMap fun e =>
        maximal g e.1 (fresh.filter (· ≠ e.1)) (labels ++ [e.2]) := by
  rw [maximal]
  simp only [List.isEmpty_iff]
  congr 1
  conv_rhs => rw [← List.unattach_attach (l := onward g v fresh)]
  exact List.flatMap_subtype fun _ _ => rfl

/-- The path without a step is prolonged unless no step leads on. -/
theorem freshPath_stops : (∀ e, ¬ FreshPath g fresh v ([] ++ [e])) ↔ onward g v fresh = [] := by
  simp only [List.nil_append, freshPath_cons, freshPath_nil, and_true, List.eq_nil_iff_forall_not_mem, mem_onward]

/-- The paths into fresh vertices that no step prolongs, depth first. -/
def maximalPaths (g : Graph V L) (v : V) (fresh : List V) : List (List (V × L)) :=
  let next := onward g v fresh
  if next = [] then [[]]
  else next.attach.flatMap fun ⟨e, h⟩ =>
    have : (fresh.filter (· ≠ e.1)).length < fresh.length := length_filter_ne_lt (mem_onward.1 h).2
    (maximalPaths g e.1 (fresh.filter (· ≠ e.1))).map (e :: ·)
termination_by fresh.length
decreasing_by exact this

theorem maximalPaths_eq (g : Graph V L) (v : V) (fresh : List V) :
    maximalPaths g v fresh =
      if onward g v fresh = [] then [[]]
      else (onward g v fresh).flatMap fun e => (maximalPaths g e.1 (fresh.filter (· ≠ e.1))).map (e :: ·) := by
  rw [maximalPaths]
  congr 1
  conv_rhs => rw [← List.unattach_attach (l := onward g v fresh)]
  exact List.flatMap_subtype fun _ _ => rfl

theorem mem_maximalPaths :
    steps ∈ maximalPaths g v fresh ↔ FreshPath g fresh v steps ∧ ∀ e, ¬ FreshPath g fresh v (steps ++ [e]) := by
  induction steps generalizing v fresh with
  | nil =>
    rw [maximalPaths_eq, freshPath_stops]
    split <;> simp [freshPath_nil, *]
  | cons e steps ih =>
    rw [maximalPaths_eq]
    simp only [List.cons_append, freshPath_cons, ← mem_onward]
    by_cases he : e ∈ onward g v fresh
    · simp [List.ne_nil_of_mem he, he, ih]
    · split <;> simp [he]

/-- The search for maximal paths finds the labels of each of them, unless there are none. -/
theorem maximal_eq_map (g : Graph V L) (v : V) (fresh : List V) (labels : List L) :
    maximal g v fresh labels =
      ((maximalPaths g v fresh).map fun p => labels ++ p.map Prod.snd).filter (!·.isEmpty) := by
  rw [maximal_eq, maximalPaths_eq]
  split
  · cases labels <;> simp
  · rw [List.map_flatMap, List.filter_flatMap]
    refine List.flatMap_congr fun e he => ?_
    have := length_filter_ne_lt (mem_onward.1 he).2
    rw [maximal_eq_map]
    simp [Function.comp_def]
termination_by fresh.length
decreasing_by all_goals assumption

/-- The search for maximal paths finds the labels of the paths into fresh vertices that no step
prolongs. -/
theorem mem_maximal {v : V} {fresh : List V} {labels s : List L} :
    s ∈ maximal g v fresh labels ↔ s ≠ [] ∧ ∃ steps, FreshPath g fresh v steps ∧
      (∀ e, ¬ FreshPath g fresh v (steps ++ [e])) ∧ labels ++ steps.map Prod.snd = s := by
  rw [maximal_eq_map, List.mem_filter, List.mem_map, and_comm]
  simp [mem_maximalPaths, and_assoc]

/-- A path into fresh vertices can be prolonged until no step leads on. -/
theorem FreshPath.prolong {fresh : List V} {v : V} {steps : List (V × L)} (hp : FreshPath g fresh v steps) :
    ∃ more, FreshPath g fresh v (steps ++ more) ∧ ∀ e, ¬ FreshPath g fresh v (steps ++ more ++ [e]) := by
  cases steps with
  | cons e steps =>
    obtain ⟨he, hrest⟩ := freshPath_cons.1 hp
    have := length_filter_ne_lt he.2
    obtain ⟨more, hmore, hmax⟩ := FreshPath.prolong hrest
    exact ⟨more, freshPath_cons.2 ⟨he, hmore⟩, fun d hd => hmax d (freshPath_cons.1 hd).2⟩
  | nil =>
    by_cases hstop : onward g v fresh = []
    · exact ⟨[], hp, freshPath_stops.2 hstop⟩
    · obtain ⟨e, he⟩ := List.exists_mem_of_ne_nil _ hstop
      have := length_filter_ne_lt (mem_onward.1 he).2
      obtain ⟨more, hmore, hmax⟩ := FreshPath.prolong (freshPath_nil g (fresh.filter (· ≠ e.1)) e.1)
      exact ⟨e :: more, freshPath_cons.2 ⟨mem_onward.1 he, hmore⟩, fun d hd => hmax d (freshPath_cons.1 hd).2⟩
termination_by fresh.length
decreasing_by all_goals assumption

/-- The traces of a root are the labels of its simple paths that no step prolongs. -/
theorem mem_traces {s : List L} :
    s ∈ traces g root ↔ s ≠ [] ∧ ∃ steps, Simple g root steps ∧
      (∀ e, ¬ Simple g root (steps ++ [e])) ∧ steps.map Prod.snd = s := by
  simp only [traces, mem_maximal, freshPath_root, List.nil_append]

/-- What the traces of a root begin with are the labels of its simple paths. -/
theorem isPrefix_traces {t : List L} :
    (t ≠ [] ∧ ∃ s ∈ traces g root, t <+: s) ↔
      ∃ steps, steps ≠ [] ∧ Simple g root steps ∧ steps.map Prod.snd = t := by
  constructor
  · rintro ⟨hne, s, hs, hpre⟩
    obtain ⟨-, steps, hsimple, -, rfl⟩ := mem_traces.1 hs
    have ht : (steps.take t.length).map Prod.snd = t := by
      rw [List.map_take]
      exact (List.prefix_iff_eq_take.1 hpre).symm
    have htake : Simple g root (steps.take t.length ++ steps.drop t.length) := by rwa [List.take_append_drop]
    refine ⟨_, fun hnil => hne ?_, htake.of_append, ht⟩
    rw [← ht, hnil, List.map_nil]
  · rintro ⟨steps, hne, hsimple, rfl⟩
    obtain ⟨more, hmore, hmax⟩ := (freshPath_root.2 hsimple).prolong
    refine ⟨by simpa using hne, (steps ++ more).map Prod.snd, mem_traces.2 ⟨by simp [hne], _, ?_, ?_, rfl⟩, ?_⟩
    · exact freshPath_root.1 hmore
    · exact fun e he => hmax e (freshPath_root.2 he)
    · exact ⟨more.map Prod.snd, by simp⟩

end StateTraces.Path
