import StateTraces.Path.Tour
import StateTraces.Proofs.Enumeration.Modes

/-
What tours find: the labels of the maximal simple paths from their root, once for each path, depth first.
Suspended anywhere, a tour is on one simple path. Its set holds the vertices of that path and its stack the
labels, and the tasks that are left fit the path: all that is put on it is taken off again. So what is still to
be found can be read off the tasks, and a step moves it to what is found.
-/

namespace StateTraces.Path

open Enumeration (endpoint endpoint_cons endpoint_append_singleton isPath_append_singleton)

variable {V L : Type} [DecidableEq V] {g : Graph V L} {root v : V} {steps p q : List (V × L)} {e : V × L}

/-! ## Prolonging a path -/

omit [DecidableEq V] in
theorem vertices_append_singleton (root : V) (steps : List (V × L)) (e : V × L) :
    vertices root (steps ++ [e]) = vertices root steps ++ [e.1] :=
  vertices_append ..

theorem simple_append_singleton :
    Simple g root (steps ++ [e]) ↔
      Simple g root steps ∧ e ∈ g.outEdges (endpoint root steps) ∧ e.1 ∉ vertices root steps := by
  constructor
  · intro h
    have hnd := h.distinct
    rw [vertices_append_singleton] at hnd
    exact ⟨h.of_append, (isPath_append_singleton.1 h.path).2, fun he =>
      (List.nodup_append.1 hnd).2.2 e.1 he e.1 (List.mem_singleton_self _) rfl⟩
  · rintro ⟨⟨hpath, hnd⟩, he, hnew⟩
    refine ⟨isPath_append_singleton.2 ⟨hpath, he⟩, ?_⟩
    rw [vertices_append_singleton, ← List.concat_eq_append]
    exact hnd.concat hnew

/-- A simple path of at least one step whose last vertex has no out-neighbour off the path. -/
structure MaximalSimple (g : Graph V L) (root : V) (steps : List (V × L)) : Prop where
  simple : Simple g root steps
  nonempty : steps ≠ []
  stops : ∀ e ∈ g.outEdges (endpoint root steps), e.1 ∈ vertices root steps

theorem maximalSimple_iff :
    MaximalSimple g root steps ↔ steps ≠ [] ∧ Simple g root steps ∧ ∀ e, ¬ Simple g root (steps ++ [e]) := by
  constructor
  · rintro ⟨hsimple, hne, hstops⟩
    refine ⟨hne, hsimple, fun e he => ?_⟩
    obtain ⟨-, hout, hnew⟩ := simple_append_singleton.1 he
    exact hnew (hstops e hout)
  · rintro ⟨hne, hsimple, hmax⟩
    refine ⟨hsimple, hne, fun e he => ?_⟩
    by_contra hnew
    exact hmax e (simple_append_singleton.2 ⟨hsimple, he, hnew⟩)

/-! ## Depth first, by adjacency -/

theorem pairwise_listedBefore (g : Graph V L) (v : V) :
    (g.outEdges v).Pairwise fun e f => ListedBefore g v e.1 f.1 := by
  refine List.Pairwise.imp (fun {e f} h => ?_) (pairwise_splits (g.outEdges v))
  obtain ⟨before, hp, he⟩ := h
  exact ⟨(before, f), hp, rfl, List.mem_map_of_mem he⟩

theorem not_listedBefore_self (g : Graph V L) (v w : V) : ¬ ListedBefore g v w w := by
  rintro ⟨⟨before, e⟩, hp, rfl, hw⟩
  obtain ⟨after, hsplit⟩ := mem_splits.1 hp
  have hnd := g.nodup_outEdges v
  rw [hsplit, List.map_append] at hnd
  exact (List.nodup_append.1 hnd).2.2 e.1 hw e.1 (List.mem_cons_self ..) rfl

/-- Where the two paths part, the first one takes an edge that is listed before that of the second. -/
def Precedes (g : Graph V L) (root : V) (p q : List (V × L)) : Prop :=
  ∃ common e f p' q', p = common ++ e :: p' ∧ q = common ++ f :: q' ∧
    ListedBefore g (endpoint root common) e.1 f.1

theorem Precedes.cons (h : Precedes g e.1 p q) : Precedes g v (e :: p) (e :: q) := by
  obtain ⟨common, d, f, p', q', rfl, rfl, hb⟩ := h
  refine ⟨e :: common, d, f, p', q', rfl, rfl, ?_⟩
  rwa [endpoint_cons]

theorem Precedes.ne (h : Precedes g root p q) : p ≠ q := by
  rintro rfl
  obtain ⟨common, e, f, p', q', hp, hq, hb⟩ := h
  obtain ⟨rfl, -⟩ := List.cons.inj (List.append_cancel_left (hp.symm.trans hq))
  exact not_listedBefore_self g _ _ hb

theorem pairwise_maximalPaths (g : Graph V L) (v : V) (fresh : List V) :
    (maximalPaths g v fresh).Pairwise (Precedes g v) := by
  rw [maximalPaths_eq]
  split
  · exact List.pairwise_singleton ..
  · refine List.pairwise_flatMap.2 ⟨fun e he => ?_, ?_⟩
    · have := length_filter_ne_lt (mem_onward.1 he).2
      exact List.pairwise_map.2 ((pairwise_maximalPaths g e.1 _).imp .cons)
    · -- paths with different first steps part there
      refine ((pairwise_listedBefore g v).filter _).imp fun {e f} hb p hp q hq => ?_
      obtain ⟨p', -, rfl⟩ := List.mem_map.1 hp
      obtain ⟨q', -, rfl⟩ := List.mem_map.1 hq
      exact ⟨[], e, f, p', q', rfl, rfl, hb⟩
termination_by fresh.length
decreasing_by assumption

namespace Tour

/-! ## What is still to be found -/

theorem leadingOn_eq (g : Graph V L) (v : V) (onPath : List V) :
    leadingOn g v onPath = onward g v (offPath g onPath) := by
  refine List.filter_congr fun e he => ?_
  simp [offPath, g.mem_vertices_of_mem_outEdges he]

/-- The results of tasks that are done one after another. -/
def pending (g : Graph V L) : List V → List L → List (Task V L) → List (List L)
  | onPath, labels, .visit v :: tasks => maximal g v (offPath g onPath) labels ++ pending g onPath labels tasks
  | onPath, labels, .enter v l :: tasks => pending g (onPath.insert v) (labels ++ [l]) tasks
  | onPath, labels, .leave v :: tasks => pending g (onPath.filter (· ≠ v)) labels.dropLast tasks
  | _, _, [] => []

theorem pending_along (g : Graph V L) (onPath : List V) (labels : List L) (tasks : List (Task V L))
    (es : List (V × L)) (h : ∀ e ∈ es, e.1 ∉ onPath) :
    pending g onPath labels (es.flatMap Task.along ++ tasks) =
      (es.flatMap fun e => maximal g e.1 ((offPath g onPath).filter (· ≠ e.1)) (labels ++ [e.2])) ++
        pending g onPath labels tasks := by
  induction es with
  | nil => rfl
  | cons e es ih =>
    -- what is done for an edge leaves the set and the stack as they were
    simp only [List.flatMap_cons, Task.along, List.cons_append, List.nil_append, pending,
      filter_insert (h e (List.mem_cons_self ..)), List.dropLast_concat, offPath_insert,
      ih fun d hd => h d (List.mem_cons_of_mem _ hd), List.append_assoc]

theorem maximal_offPath (g : Graph V L) (v : V) (onPath : List V) (labels : List L) :
    maximal g v (offPath g onPath) labels =
      if leadingOn g v onPath = [] then (if labels = [] then [] else [labels])
      else (leadingOn g v onPath).flatMap fun e =>
        maximal g e.1 ((offPath g onPath).filter (· ≠ e.1)) (labels ++ [e.2]) := by
  rw [maximal_eq, leadingOn_eq]

/-- A step moves results from what is to be found to what is found. -/
theorem found_step {t t' : Tour V L} (h : t.step g = some t') :
    t'.found ++ pending g t'.onPath t'.labels t'.tasks = t.found ++ pending g t.onPath t.labels t.tasks := by
  obtain ⟨onPath, labels, found, tasks⟩ := t
  match tasks with
  | .visit v :: tasks =>
    cases h
    have hnew : ∀ e ∈ leadingOn g v onPath, e.1 ∉ onPath := fun e he => (mem_leadingOn.1 he).2
    simp only [pending, pending_along g onPath labels tasks _ hnew, maximal_offPath]
    -- where the path ends its labels are a result now, else all results are those of the new tasks
    by_cases hstop : leadingOn g v onPath = []
    · cases labels <;> simp [hstop]
    · simp [hstop]
  | .enter v l :: tasks => cases h; rfl
  | .leave v :: tasks => cases h; rfl
  | [] => cases h

theorem tasks_of_step {t : Tour V L} (h : t.step g = none) : t.tasks = [] := by
  obtain ⟨onPath, labels, found, tasks⟩ := t
  match tasks with
  | .visit v :: tasks => cases h
  | .enter v l :: tasks => cases h
  | .leave v :: tasks => cases h
  | [] => rfl

theorem found_run (g : Graph V L) (t : Tour V L) :
    (t.run g).found = t.found ++ pending g t.onPath t.labels t.tasks := by
  fun_induction run g t with
  | case1 t h => rw [tasks_of_step h, pending, List.append_nil]
  | case2 t t' h _ ih => rw [ih, found_step h]

/-- A tour finds what the search for maximal paths finds. -/
theorem traces_eq (g : Graph V L) (root : V) : traces g root = Path.traces g root := by
  have hoff : offPath g [root] = g.vertices.filter (· ≠ root) :=
    List.filter_congr fun w _ => by simp
  rw [traces, found_run]
  simp only [start, pending, hoff, List.nil_append, List.append_nil]
  rfl

/-! ## The path of a suspended tour -/

/-- The tasks can be done from the end of a path, and take it back to the root. -/
def Fits (g : Graph V L) (root : V) : List (V × L) → List (Task V L) → Prop
  | path, .visit v :: tasks => v = endpoint root path ∧ Fits g root path tasks
  | path, .enter v l :: tasks =>
    ((v, l) ∈ g.outEdges (endpoint root path) ∧ v ∉ vertices root path) ∧ Fits g root (path ++ [(v, l)]) tasks
  | path, .leave v :: tasks => ∃ before l, path = before ++ [(v, l)] ∧ Fits g root before tasks
  | path, [] => path = []

theorem fits_along {path : List (V × L)} {tasks : List (Task V L)} {es : List (V × L)}
    (h : ∀ e ∈ es, e ∈ g.outEdges (endpoint root path) ∧ e.1 ∉ vertices root path)
    (htasks : Fits g root path tasks) : Fits g root path (es.flatMap Task.along ++ tasks) := by
  induction es with
  | nil => exact htasks
  | cons e es ih =>
    refine ⟨h e (List.mem_cons_self ..), (endpoint_append_singleton ..).symm, path, e.2, rfl, ?_⟩
    exact ih fun d hd => h d (List.mem_cons_of_mem _ hd)

/-- A suspended tour is on a simple path from its root. -/
structure On (g : Graph V L) (root : V) (t : Tour V L) (path : List (V × L)) : Prop where
  simple : Simple g root path
  onPath : t.onPath = (vertices root path).reverse
  labels : t.labels = path.map Prod.snd
  tasks : Fits g root path t.tasks

theorem on_start (g : Graph V L) (root : V) : On g root (start root) [] :=
  ⟨⟨trivial, List.nodup_singleton root⟩, rfl, rfl, rfl, rfl⟩

/-- A step stays on the path, or goes one edge forth or back on it. -/
theorem On.step {t t' : Tour V L} {path : List (V × L)} (hon : On g root t path) (h : t.step g = some t') :
    ∃ path', On g root t' path' := by
  obtain ⟨onPath, labels, found, tasks⟩ := t
  obtain ⟨hsimple, hset, hlabels, hfits⟩ := hon
  dsimp only at hset hlabels
  match tasks with
  | .visit v :: tasks =>
    cases h
    obtain ⟨rfl, hrest⟩ := hfits
    refine ⟨path, hsimple, hset, hlabels, fits_along (fun e he => ?_) hrest⟩
    obtain ⟨he, hnew⟩ := mem_leadingOn.1 he
    exact ⟨he, by simpa [hset] using hnew⟩
  | .enter v l :: tasks =>
    cases h
    obtain ⟨⟨hedge, hnew⟩, hrest⟩ := hfits
    refine ⟨path ++ [(v, l)], simple_append_singleton.2 ⟨hsimple, hedge, hnew⟩, ?_, ?_, hrest⟩
    · simp [hset, vertices_append_singleton, hnew]
    · simp [hlabels]
  | .leave v :: tasks =>
    cases h
    obtain ⟨before, l, rfl, hrest⟩ := hfits
    obtain ⟨hbefore, -, hnew⟩ := simple_append_singleton.1 hsimple
    -- taking the vertex off gives the set from before it was put on, since it was not in it
    refine ⟨before, hbefore, ?_, ?_, hrest⟩
    · have hput : onPath = (vertices root before).reverse.insert v := by
        simp [hset, vertices_append_singleton, hnew]
      rw [hput]
      exact filter_insert (by simpa using hnew)
    · simp [hlabels]
  | [] => cases h

/-! ## Whole tours -/

/-- A tour from a root comes to be suspended at `t`. -/
def Reached (g : Graph V L) (root : V) (t : Tour V L) : Prop :=
  Relation.ReflTransGen (fun s s' => s.step g = some s') (start root) t

theorem Reached.on {t : Tour V L} (h : Reached g root t) : ∃ path, On g root t path := by
  induction h with
  | refl => exact ⟨[], on_start g root⟩
  | tail _ hstep ih =>
    obtain ⟨path, hon⟩ := ih
    exact hon.step hstep

theorem reflTransGen_run (g : Graph V L) (t : Tour V L) :
    Relation.ReflTransGen (fun s s' => s.step g = some s') t (t.run g) := by
  fun_induction run g t with
  | case1 t h => exact .refl
  | case2 t t' h _ ih => exact .head h ih

theorem step_run (g : Graph V L) (t : Tour V L) : (t.run g).step g = none := by
  fun_induction run g t with
  | case1 t h => exact h
  | case2 t t' h _ ih => exact ih

/-- When all is done, only the root is on the path. -/
theorem On.done {t : Tour V L} {path : List (V × L)} (hon : On g root t path) (h : t.step g = none) :
    t = { onPath := [root], found := t.found } := by
  obtain ⟨onPath, labels, found, tasks⟩ := t
  obtain ⟨-, hset, hlabels, hfits⟩ := hon
  obtain rfl : tasks = [] := tasks_of_step h
  obtain rfl : path = [] := hfits
  cases hset
  cases hlabels
  rfl

theorem reached_end (g : Graph V L) (root : V) : Reached g root { onPath := [root], found := traces g root } := by
  have hrun : Reached g root ((start root).run g) := reflTransGen_run g (start root)
  obtain ⟨path, hon⟩ := hrun.on
  rwa [hon.done (step_run ..)] at hrun

/-- A tour comes to its end, in whatever way the vertices are connected, and then it has found the labels of the
maximal simple paths from its root: of all of them and of nothing else, once for each, depth first by
adjacency. Whenever it is suspended it is on a simple path, and its set and its stack are those of this path. -/
theorem lists_maximal_paths (g : Graph V L) (root : V) :
    (∃ paths : List (List (V × L)),
      (∀ p, p ∈ paths ↔ MaximalSimple g root p) ∧ paths.Nodup ∧ paths.Pairwise (Precedes g root) ∧
      traces g root = paths.map (·.map Prod.snd) ∧ Path.traces g root = paths.map (·.map Prod.snd)) ∧
    Reached g root { onPath := [root], found := traces g root } ∧
    ∀ t, Reached g root t → ∃ path, On g root t path := by
  let paths := (maximalPaths g root (g.vertices.filter (· ≠ root))).filter (!·.isEmpty)
  have hmem : ∀ p, p ∈ paths ↔ MaximalSimple g root p := fun p => by
    simp only [paths, List.mem_filter, mem_maximalPaths, freshPath_root, maximalSimple_iff]
    simp [and_comm]
  have horder : paths.Pairwise (Precedes g root) := (pairwise_maximalPaths ..).filter _
  have htraces : Path.traces g root = paths.map (·.map Prod.snd) := by
    rw [Path.traces, maximal_eq_map, List.filter_map]
    simp [paths, Function.comp_def]
  exact ⟨⟨paths, hmem, horder.imp Precedes.ne, horder, (traces_eq g root).trans htraces, htraces⟩,
    reached_end g root, fun t h => h.on⟩

/-- On a cycle of two vertices, suspended before the second one is visited. -/
theorem lists_maximal_paths_cycle :
    let cycle : Graph Nat String := .ofEdges [(0, 1, "there"), (1, 0, "back")]
    let halfway : Tour Nat String := { onPath := [1, 0], labels := ["there"], tasks := [.visit 1, .leave 1] }
    Reached cycle 0 halfway ∧ ∃ path, On cycle 0 halfway path := by
  intro cycle halfway
  have hreached : Reached cycle 0 halfway := .tail (.single rfl) rfl
  exact ⟨hreached, (lists_maximal_paths cycle 0).2.2 halfway hreached⟩

end Tour

end StateTraces.Path
