import StateTraces.Proofs.Enumeration.Visits
import StateTraces.Proofs.Enumeration.Window

/-
The counts of a run, told by its visits. Each vertex is one root; every visit makes one choice for each
non-empty subset of its out-edges; the depth reached is the greatest depth of a visit. That holds of both
searches, which differ in the number of their results only.
-/

namespace StateTraces.Enumeration

/-! ## Tallies -/

section Tallies

variable {V R : Type}

def Event.isRoot : Event V R → Bool
  | .root .. => true
  | _ => false

def Event.isChoose : Event V R → Bool
  | .choose => true
  | _ => false

/-- The depth of an expansion. -/
def Event.expanded? : Event V R → Option Nat
  | .expand depth => some depth
  | _ => none

/-- The counts of a run: of its moves and of its results. -/
theorem ofEvents_eq (events : Feed (Event V R)) :
    Tally.ofEvents events =
      { roots := (moves events).countP Event.isRoot
        combinations := (moves events).countP Event.isChoose
        emitted := (results events).length
        deepest := ((moves events).filterMap Event.expanded?).foldl max 0 } := by
  have noted : ∀ (l : List (Event V R)) (t : Tally), l.foldl Tally.note t =
      { roots := t.roots + (l.filterMap Event.move?).countP Event.isRoot
        combinations := t.combinations + (l.filterMap Event.move?).countP Event.isChoose
        emitted := t.emitted + (l.filterMap Event.value?).length
        deepest := ((l.filterMap Event.move?).filterMap Event.expanded?).foldl max t.deepest } := by
    intro l
    induction l with
    | nil => intro t; rfl
    | cons e l ih =>
      intro t
      rw [List.foldl_cons, ih]
      cases e <;>
        simp [Tally.note, List.filterMap_cons, List.countP_cons, Event.move?, Event.isRoot, Event.isChoose,
          Event.value?, Event.expanded?, Nat.add_assoc, Nat.add_comm 1]
  rw [Tally.ofEvents, Feed.foldl_eq, noted]
  simp [moves, results]

end Tallies

variable {V L : Type} [DecidableEq V]

/-! ## The moves of a course -/

omit [DecidableEq V] in
theorem expanded_events (ms : List (Move V L)) :
    (ms.map Move.event).filterMap Event.expanded? = (ms.filterMap Move.visit?).map Visit.depth := by
  rw [List.filterMap_map, List.map_filterMap]
  congr 1
  funext m
  cases m <;> rfl

omit [DecidableEq V] in
theorem choices_events (ms : List (Move V L)) :
    (ms.map Move.event).countP Event.isChoose = (ms.filterMap Move.chosen?).length := by
  induction ms with
  | nil => rfl
  | cons m ms ih =>
    cases m with
    | choose chosen =>
      rw [List.filterMap_cons_some (Move.chosen?_choose _), List.length_cons, ← ih, List.map_cons,
        List.countP_cons_of_pos rfl]
    | visit x =>
      rw [List.filterMap_cons_none (Move.chosen?_visit x), ← ih, List.map_cons,
        List.countP_cons_of_neg Bool.false_ne_true]

theorem chosen_chooseAll (depth : Nat) (choices : List (List (V × L))) (seen : Finset V) :
    (chooseAll depth choices seen).filterMap Move.chosen? = choices := by
  induction choices generalizing seen with
  | nil => rfl
  | cons c cs ih =>
    have hvisits : ∀ ys : List (Visit V), (ys.map (Move.visit (L := L))).filterMap Move.chosen? = [] := fun ys => by
      rw [List.filterMap_map]
      exact List.filterMap_eq_nil_iff.2 fun _ _ => rfl
    rw [chooseAll, List.cons_append, List.filterMap_cons_some (Move.chosen?_choose c), List.filterMap_append, hvisits,
      ih, List.nil_append]

/-- At a visit every non-empty subset of the out-edges is chosen. -/
theorem chosen_moves (g : Graph V L) (x : Visit V) :
    (x.moves g).filterMap Move.chosen? = (Subset.nonEmpty (g.outEdges x.vertex)).toList := by
  rw [Visit.moves, List.filterMap_flatMap, Subset.toList_nonEmpty]
  exact List.flatMap_congr fun size _ => chosen_chooseAll ..

/-- How many choices there are at a visit. -/
def Visit.choices (g : Graph V L) (x : Visit V) : Nat := Subset.choiceCount (g.outDegree x.vertex)

omit [DecidableEq V] in
/-- If every visit made is followed by as many choices as its visits have, then so are all moves together, but
for the choices among them. -/
theorem length_chosen_unfold {ms : List (Move V L)} {follow : Visit V → List (Move V L)} {weight : Visit V → Nat}
    (h : ∀ y, .visit y ∈ ms →
      ((follow y).filterMap Move.chosen?).length = (((follow y).filterMap Move.visit?).map weight).sum) :
    ((ms.flatMap (Move.unfold follow)).filterMap Move.chosen?).length =
      (ms.filterMap Move.chosen?).length +
        (((ms.flatMap (Move.unfold follow)).filterMap Move.visit?).map weight).sum := by
  induction ms with
  | nil => rfl
  | cons m ms ih =>
    have hms := ih fun y hy => h y (List.mem_cons_of_mem _ hy)
    rw [List.flatMap_cons, List.filterMap_append, List.filterMap_append, List.length_append, List.map_append,
      List.sum_append, hms]
    cases m with
    | choose chosen =>
      simp only [Move.unfold, List.filterMap_cons_some (Move.chosen?_choose _),
        List.filterMap_cons_none (Move.visit?_choose _), List.filterMap_nil, List.length_cons, List.length_nil,
        List.map_nil, List.sum_nil]
      omega
    | visit y =>
      rw [Move.unfold, h y (List.mem_cons_self ..), List.filterMap_cons_none (Move.chosen?_visit y)]
      omega

/-- The choices of a course are those of its visits. -/
theorem length_chosen_course (g : Graph V L) (window : Option DepthWindow) (x : Visit V) :
    ((course g window x).filterMap Move.chosen?).length =
      (((course g window x).filterMap Move.visit?).map (Visit.choices g)).sum := by
  rw [course_eq]
  split
  · have hnext : ∀ y, .visit y ∈ x.moves g → ((course g window y).filterMap Move.chosen?).length =
        (((course g window y).filterMap Move.visit?).map (Visit.choices g)).sum := by
      intro y hy
      have := Leads.unvisited_lt hy
      exact length_chosen_course g window y
    rw [List.filterMap_cons_none (Move.chosen?_visit x), List.filterMap_cons_some (Move.visit?_visit x),
      length_chosen_unfold hnext, chosen_moves,
      Subset.length_nonEmpty, List.map_cons, List.sum_cons]
    rfl
  · rfl
termination_by (unvisited g x.visited).length

/-- The visits of a run, root by root. -/
def allVisits (g : Graph V L) (window : Option DepthWindow) : List (Visit V) :=
  g.vertices.flatMap fun root => (course g window (.root root)).filterMap Move.visit?

theorem roots_runMoves (g : Graph V L) (window : Option DepthWindow) :
    (runMoves g window).countP Event.isRoot = g.size := by
  have hbelow : ∀ ms : List (Move V L), (ms.map Move.event).countP Event.isRoot = 0 := fun ms => by
    rw [List.countP_map]
    exact List.countP_eq_zero.2 fun m _ => by cases m <;> exact Bool.false_ne_true
  have hroot : ∀ root, (Event.root root (g.outDegree root) ::
      (course g window (.root root)).map Move.event).countP Event.isRoot = 1 := fun root => by
    rw [List.countP_cons_of_pos rfl, hbelow]
  rw [runMoves, List.countP_flatMap]
  simp [Function.comp_def, hroot, Graph.vertices, Table.keys, Graph.size]

theorem expanded_runMoves (g : Graph V L) (window : Option DepthWindow) :
    (runMoves g window).filterMap Event.expanded? = (allVisits g window).map Visit.depth := by
  rw [runMoves, allVisits, List.filterMap_flatMap, List.map_flatMap]
  exact List.flatMap_congr fun root _ => expanded_events _

theorem choices_runMoves (g : Graph V L) (window : Option DepthWindow) :
    (runMoves g window).countP Event.isChoose = ((allVisits g window).map (Visit.choices g)).sum := by
  rw [runMoves, allVisits, List.countP_flatMap, List.map_flatMap, List.flatMap_def, List.sum_flatten, List.map_map]
  refine congrArg List.sum (List.map_congr_left fun root _ => ?_)
  rw [Function.comp_apply, List.countP_cons_of_neg Bool.false_ne_true, choices_events, length_chosen_course]
  rfl

/-- Without a window every choice hands out one subgraph. -/
theorem length_results_subgraphs (g : Graph V L) (v : V) (fresh : List V) (branch : Graph V L) (depth : Nat) :
    (results (subgraphs g none v fresh branch depth)).length =
      (moves (subgraphs g none v fresh branch depth)).countP Event.isChoose := by
  rw [moves_subgraphs, subgraphs, if_pos (within_none _), if_pos (within_none _), results_next, results_flatMap,
    List.countP_cons_of_neg Bool.false_ne_true, List.countP_flatMap]
  refine List.length_flatMap.trans (congrArg List.sum (List.map_congr_left fun s _ => ?_))
  cases s with
  | choose chosen => rfl
  | enter chosen target label fresh' smaller => exact length_results_subgraphs ..
termination_by fresh.length

theorem length_allSubgraphs (g : Graph V L) :
    (allSubgraphs g none).length = (moves (subgraphEvents g none)).countP Event.isChoose := by
  rw [allSubgraphs, subgraphEvents, fromRoots, results_flatMap, moves_flatMap, List.countP_flatMap]
  refine List.length_flatMap.trans (congrArg List.sum (List.map_congr_left fun root _ => ?_))
  rw [results_next, Function.comp_apply, moves_next]
  exact length_results_subgraphs ..

theorem foldl_max_zero (l : List Nat) : l.foldl max 0 = l.max?.getD 0 := by
  cases l with
  | nil => rfl
  | cons n l => rw [List.max?_cons', Option.getD_some, List.foldl_cons, Nat.zero_max]

theorem all_within_course (g : Graph V L) (window : Option DepthWindow) (x : Visit V) :
    ((course g window x).filterMap Move.visit?).all (fun y => within window y.depth) = true := by
  rw [course_eq]
  split
  · rename_i h
    rw [List.filterMap_cons_some (Move.visit?_visit x), List.all_cons, h, Bool.true_and, List.filterMap_flatMap,
      List.all_flatMap]
    refine List.all_eq_true.2 fun m hm => ?_
    cases m with
    | choose chosen => rfl
    | visit y =>
      have := Leads.unvisited_lt hm
      exact all_within_course g window y
  · rfl
termination_by (unvisited g x.visited).length

/-- The counts of a run that hands out so many results, told by its visits: one root for each vertex, the
choices of all visits, and the greatest depth of a visit. -/
def visitTally (g : Graph V L) (window : Option DepthWindow) (emitted : Nat) : Tally where
  roots := g.size
  combinations := ((allVisits g window).map (Visit.choices g)).sum
  emitted := emitted
  deepest := ((allVisits g window).map Visit.depth).max?.getD 0

/-- The moves of a run and its results determine its counts. -/
theorem ofEvents_of_moves {R : Type} {g : Graph V L} {window : Option DepthWindow} {events : Feed (Event V R)}
    (h : moves events = runMoves g window) :
    Tally.ofEvents events = visitTally g window (results events).length := by
  rw [ofEvents_eq, h, roots_runMoves, choices_runMoves, expanded_runMoves, foldl_max_zero]
  rfl

/-- Both searches walk alike: but for their results they do the same in the same order, which is to go
through the course of every root, where nothing beyond the window is visited. So their counts differ in the
number of results only, and without a window the search for subgraphs hands out one result for each
choice. -/
theorem modes_walk_alike (g : Graph V L) (window : Option DepthWindow) :
    moves (traceEvents g window) = runMoves g window ∧
    moves (subgraphEvents g window) = runMoves g window ∧
    (allVisits g window).all (fun x => within window x.depth) = true ∧
    Tally.ofEvents (traceEvents g window) = visitTally g window (allTraces g window).length ∧
    Tally.ofEvents (subgraphEvents g window) = visitTally g window (allSubgraphs g window).length ∧
    (Tally.ofEvents (subgraphEvents g none)).emitted =
      (Tally.ofEvents (subgraphEvents g none)).combinations := by
  refine ⟨moves_traceEvents .., moves_subgraphEvents .., ?_, ofEvents_of_moves (moves_traceEvents ..),
    ofEvents_of_moves (moves_subgraphEvents ..), ?_⟩
  · rw [allVisits, List.all_flatMap]
    exact List.all_eq_true.2 fun root _ => all_within_course ..
  · rw [ofEvents_eq]
    exact length_allSubgraphs g

end StateTraces.Enumeration
