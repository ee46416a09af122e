import StateTraces.Proofs.Enumeration.Branch

/-
The expansions of a search, told with the vertices visited on the way instead of those still fresh. Each
size of choices starts from what its visit has seen; inside a size every target not seen is visited once
and is seen from then on. What both searches do but for their results is one and the same course of
visits and choices.
-/

namespace StateTraces.Enumeration

/-! ## Moves -/

section Moves

variable {V R : Type}

/-- An event that is no result. -/
def Event.move? : Event V R → Option (Event V Empty)
  | .root v degree => some (.root v degree)
  | .expand depth => some (.expand depth)
  | .choose => some .choose
  | .result .. => none

/-- What happens in a search apart from its results. -/
def moves (events : Feed (Event V R)) : List (Event V Empty) := events.toList.filterMap Event.move?

theorem moves_next (e : Event V R) (rest : Unit → Feed (Event V R)) :
    moves (.next e rest) = e.move?.toList ++ moves (rest ()) := by
  simp only [moves, Feed.toList_next, List.filterMap_cons]
  cases e.move? <;> rfl

theorem moves_append (a : Feed (Event V R)) (b : Unit → Feed (Event V R)) :
    moves (a.append b) = moves a ++ moves (b ()) := by
  simp [moves]

theorem moves_flatMap {α : Type} (a : Feed α) (f : α → Feed (Event V R)) :
    moves (a.flatMap f) = a.toList.flatMap fun x => moves (f x) := by
  simp [moves, List.filterMap_flatMap]

@[simp] theorem moves_report (window : Option DepthWindow) (depth : Nat) (r : R) :
    moves (report window depth r : Feed (Event V R)) = [] := by
  unfold report
  split <;> rfl

end Moves

variable {V L : Type} [DecidableEq V]

/-! ## The same walk -/

/-- The moves of a step: a choice, or what follows an entry. -/
def Step.movesWith {bound : Nat} (follow : List (V × L) → V → L → List V → List (Event V Empty)) :
    Step V L bound → List (Event V Empty)
  | .choose _ => [.choose]
  | .enter chosen target label fresh _ => follow chosen target label fresh

theorem moves_traces (g : Graph V L) (window : Option DepthWindow) (v : V) (fresh : List V) (path : List L)
    (depth : Nat) :
    moves (traces g window v fresh path depth) =
      if within window depth then
        .expand depth :: (steps (g.outEdges v) fresh).toList.flatMap (Step.movesWith
          fun _ target label fresh' => moves (traces g window target fresh' (path ++ [label]) (depth + 1)))
      else [] := by
  rw [traces]
  split
  · rw [moves_next, moves_flatMap]
    refine congrArg (List.cons (Event.expand depth)) (List.flatMap_congr fun s _ => ?_)
    cases s with
    | choose chosen => rfl
    | enter chosen target label fresh' smaller => rw [moves_append, moves_report, List.nil_append]; rfl
  · rfl

theorem moves_subgraphs (g : Graph V L) (window : Option DepthWindow) (v : V) (fresh : List V)
    (branch : Graph V L) (depth : Nat) :
    moves (subgraphs g window v fresh branch depth) =
      if within window depth then
        .expand depth :: (steps (g.outEdges v) fresh).toList.flatMap (Step.movesWith fun chosen target _ fresh' =>
          moves (subgraphs g window target fresh' (branch.addEdges v chosen) (depth + 1)))
      else [] := by
  rw [subgraphs]
  split
  · rw [moves_next, moves_flatMap]
    refine congrArg (List.cons (Event.expand depth)) (List.flatMap_congr fun s _ => ?_)
    cases s with
    | choose chosen => rw [moves_next, moves_report]; rfl
    | enter chosen target label fresh' smaller => rfl
  · rfl

/-- Below a vertex both searches make the same moves, whatever they carry along. -/
theorem moves_traces_eq (g : Graph V L) (window : Option DepthWindow) (v : V) (fresh : List V) (path : List L)
    (branch : Graph V L) (depth : Nat) :
    moves (traces g window v fresh path depth) = moves (subgraphs g window v fresh branch depth) := by
  rw [moves_traces, moves_subgraphs]
  split
  · refine congrArg (List.cons (Event.expand depth)) (List.flatMap_congr fun s _ => ?_)
    cases s with
    | choose chosen => rfl
    | enter chosen target label fresh' smaller => exact moves_traces_eq ..
  · rfl
termination_by fresh.length

/-! ## Visits -/

/-- The expansion of a vertex: the vertices visited on the way to it, itself included, and its depth. -/
structure Visit (V : Type) where
  vertex : V
  visited : Finset V
  depth : Nat
  deriving DecidableEq

/-- The first visit of a root. -/
def Visit.root (v : V) : Visit V := ⟨v, {v}, 1⟩

/-- What is done at a visit: a choice of out-edges is made, or one of its targets is visited. -/
inductive Move (V L : Type) where
  | choose (chosen : List (V × L))
  | visit (x : Visit V)
  deriving DecidableEq

namespace Move

variable {V L : Type}

/-- The event of a move. -/
def event : Move V L → Event V Empty
  | .choose _ => .choose
  | .visit x => .expand x.depth

def chosen? : Move V L → Option (List (V × L))
  | .choose chosen => some chosen
  | .visit _ => none

def visit? : Move V L → Option (Visit V)
  | .choose _ => none
  | .visit x => some x

@[simp] theorem chosen?_choose (c : List (V × L)) : (choose c).chosen? = some c := rfl

@[simp] theorem chosen?_visit (x : Visit V) : (visit x : Move V L).chosen? = none := rfl

@[simp] theorem visit?_choose (c : List (V × L)) : (choose c).visit? = none := rfl

@[simp] theorem visit?_visit (x : Visit V) : (visit x : Move V L).visit? = some x := rfl

end Move

/-- The visits at a depth that a choice leads to, and what is seen after them. A target that is seen is
passed over; any other is visited and seen from then on. -/
def visitUnseen (depth : Nat) : List (V × L) → Finset V → List (Visit V) × Finset V
  | [], seen => ([], seen)
  | (t, _) :: es, seen =>
    if t ∈ seen then visitUnseen depth es seen
    else
      let rest := visitUnseen depth es (insert t seen)
      (⟨t, insert t seen, depth⟩ :: rest.1, rest.2)

/-- The choices of one size and the visits they lead to. What one choice has seen the later ones have. -/
def chooseAll (depth : Nat) : List (List (V × L)) → Finset V → List (Move V L)
  | [], _ => []
  | c :: cs, seen =>
    .choose c :: (visitUnseen depth c seen).1.map .visit ++ chooseAll depth cs (visitUnseen depth c seen).2

/-- Everything done at a visit, smaller choices first. Each size starts from what the visit has seen. -/
def Visit.moves (g : Graph V L) (x : Visit V) : List (Move V L) :=
  (List.range' 1 (g.outDegree x.vertex)).flatMap fun size =>
    chooseAll (x.depth + 1) (Subset.ofSize size (g.outEdges x.vertex)).toList x.visited

/-- One visit leads to another. -/
def Leads (g : Graph V L) (x y : Visit V) : Prop := .visit y ∈ x.moves g

instance [DecidableEq L] (g : Graph V L) (x y : Visit V) : Decidable (Leads g x y) :=
  inferInstanceAs (Decidable (_ ∈ _))

theorem mem_visitUnseen {depth : Nat} {es : List (V × L)} {seen : Finset V} {y : Visit V}
    (h : y ∈ (visitUnseen depth es seen).1) :
    y.depth = depth ∧ y.vertex ∈ es.map Prod.fst ∧ y.vertex ∉ seen ∧ y.vertex ∈ y.visited ∧ seen ⊆ y.visited := by
  induction es generalizing seen with
  | nil => cases h
  | cons e es ih =>
    obtain ⟨t, l⟩ := e
    rw [visitUnseen] at h
    split at h
    · obtain ⟨hdepth, hmem, hrest⟩ := ih h
      exact ⟨hdepth, List.mem_cons_of_mem _ hmem, hrest⟩
    · rename_i ht
      rcases List.mem_cons.1 h with rfl | h
      · exact ⟨rfl, List.mem_cons_self .., ht, Finset.mem_insert_self .., Finset.subset_insert ..⟩
      · obtain ⟨hdepth, hmem, hnot, hself, hsub⟩ := ih h
        exact ⟨hdepth, List.mem_cons_of_mem _ hmem, fun hs => hnot (Finset.mem_insert_of_mem hs), hself,
          (Finset.subset_insert ..).trans hsub⟩

theorem subset_visitUnseen (depth : Nat) (es : List (V × L)) (seen : Finset V) :
    seen ⊆ (visitUnseen depth es seen).2 := by
  induction es generalizing seen with
  | nil => exact Finset.Subset.refl _
  | cons e es ih =>
    obtain ⟨t, l⟩ := e
    rw [visitUnseen]
    split
    · exact ih seen
    · exact (Finset.subset_insert ..).trans (ih _)

theorem visit_mem_chooseAll {depth : Nat} {choices : List (List (V × L))} {seen : Finset V} {y : Visit V}
    (h : .visit y ∈ chooseAll depth choices seen) :
    y.depth = depth ∧ (∃ c ∈ choices, y.vertex ∈ c.map Prod.fst) ∧ y.vertex ∉ seen ∧ y.vertex ∈ y.visited ∧
      seen ⊆ y.visited := by
  induction choices generalizing seen with
  | nil => cases h
  | cons c cs ih =>
    rw [chooseAll, List.cons_append, List.mem_cons, List.mem_append] at h
    rcases h with h | h | h
    · cases h
    · obtain ⟨z, hz, he⟩ := List.mem_map.1 h
      cases he
      obtain ⟨hdepth, hmem, hrest⟩ := mem_visitUnseen hz
      exact ⟨hdepth, ⟨c, List.mem_cons_self .., hmem⟩, hrest⟩
    · obtain ⟨hdepth, ⟨d, hd, hmem⟩, hnot, hself, hsub⟩ := ih h
      have hgrow := subset_visitUnseen depth c seen
      exact ⟨hdepth, ⟨d, List.mem_cons_of_mem _ hd, hmem⟩, fun hs => hnot (hgrow hs), hself, hgrow.trans hsub⟩

/-- What is visited next is a vertex of the graph that was not visited and is visited from then on. -/
theorem Leads.enters {g : Graph V L} {x y : Visit V} (h : Leads g x y) :
    y.depth = x.depth + 1 ∧ y.vertex ∈ g.vertices ∧ y.vertex ∉ x.visited ∧ y.vertex ∈ y.visited ∧
      x.visited ⊆ y.visited := by
  obtain ⟨size, -, h⟩ := List.mem_flatMap.1 h
  obtain ⟨hdepth, ⟨c, hc, hmem⟩, hrest⟩ := visit_mem_chooseAll h
  obtain ⟨e, he, hvertex⟩ := List.mem_map.1 hmem
  rw [← hvertex] at hrest ⊢
  exact ⟨hdepth, g.mem_vertices_of_mem_outEdges ((Subset.mem_ofSize.1 hc).1.subset he), hrest⟩

/-- Every visit that another leads to leaves fewer vertices unvisited. -/
theorem Leads.unvisited_lt {g : Graph V L} {x y : Visit V} (h : Leads g x y) :
    (unvisited g y.visited).length < (unvisited g x.visited).length := by
  obtain ⟨-, hvertex, hnew, hself, hsub⟩ := h.enters
  have hfilter : unvisited g y.visited = (unvisited g x.visited).filter (· ∉ y.visited) := by
    rw [unvisited, unvisited, List.filter_filter]
    refine List.filter_congr fun v _ => ?_
    rw [← Bool.decide_and, decide_eq_decide]
    exact ⟨fun hv => ⟨hv, fun hx => hv (hsub hx)⟩, fun hv => hv.1⟩
  rw [hfilter]
  exact length_filter_lt (mem_unvisited.2 ⟨hvertex, hnew⟩) (by simpa using hself) (Nat.le_refl _)

/-! ## Courses -/

/-- Everything done from a visit on, in order; nothing beyond the window. -/
def course (g : Graph V L) (window : Option DepthWindow) (x : Visit V) : List (Move V L) :=
  if within window x.depth then
    .visit x :: (x.moves g).attach.flatMap fun
      | ⟨.choose chosen, _⟩ => [.choose chosen]
      | ⟨.visit y, _⟩ => course g window y
  else []
termination_by (unvisited g x.visited).length
decreasing_by exact Leads.unvisited_lt ‹_›

/-- A move at a visit with what follows it. -/
def Move.unfold (follow : Visit V → List (Move V L)) : Move V L → List (Move V L)
  | .choose chosen => [.choose chosen]
  | .visit y => follow y

theorem course_eq (g : Graph V L) (window : Option DepthWindow) (x : Visit V) :
    course g window x =
      if within window x.depth then .visit x :: (x.moves g).flatMap (Move.unfold (course g window)) else [] := by
  rw [course]
  congr 2
  conv_rhs => rw [← List.unattach_attach (l := x.moves g)]
  refine List.flatMap_subtype fun m _ => ?_
  cases m <;> rfl

/-! ## The searches as courses -/

/-- A step without its label: a choice, or a target with what is fresh after it. -/
def Step.outline {bound : Nat} : Step V L bound → List (V × L) ⊕ V × List V
  | .choose chosen => .inl chosen
  | .enter _ target _ fresh _ => .inr (target, fresh)

/-- A move in terms of what is not visited. -/
def Move.outline (g : Graph V L) : Move V L → List (V × L) ⊕ V × List V
  | .choose chosen => .inl chosen
  | .visit y => .inr (y.vertex, unvisited g y.visited)

theorem unvisited_insert (g : Graph V L) (seen : Finset V) (t : V) :
    (unvisited g seen).filter (· ≠ t) = unvisited g (insert t seen) := by
  rw [unvisited, unvisited, List.filter_filter]
  refine List.filter_congr fun v _ => ?_
  rw [← Bool.decide_and, decide_eq_decide, Finset.mem_insert]
  exact not_or.symm

/-- The targets are vertices of the graph, so one of them is fresh exactly when it is not seen. -/
theorem outline_enterFresh {g : Graph V L} {bound : Nat} (depth : Nat) (chosen : List (V × L))
    {es : List (V × L)} {fresh : Fresh V bound} {seen : Finset V} (hes : ∀ e ∈ es, e.1 ∈ g.vertices)
    (hfresh : fresh.1 = unvisited g seen) :
    (enterFresh chosen es fresh).1.map Step.outline =
        ((visitUnseen depth es seen).1.map .visit).map (Move.outline g) ∧
      (enterFresh chosen es fresh).2.1 = unvisited g (visitUnseen depth es seen).2 := by
  induction es generalizing fresh seen with
  | nil => exact ⟨rfl, hfresh⟩
  | cons e es ih =>
    obtain ⟨t, l⟩ := e
    have ht : t ∈ g.vertices := hes _ (List.mem_cons_self ..)
    have hrest : ∀ e ∈ es, e.1 ∈ g.vertices := fun e he => hes e (List.mem_cons_of_mem _ he)
    by_cases hs : t ∈ seen
    · have hgone : t ∉ fresh.1 := fun hm => (mem_unvisited.1 (hfresh ▸ hm)).2 hs
      simp only [enterFresh, visitUnseen, hgone, hs, ↓reduceDIte, ↓reduceIte]
      exact ih hrest hfresh
    · have hmem : t ∈ fresh.1 := hfresh ▸ mem_unvisited.2 ⟨ht, hs⟩
      have hleft : fresh.1.filter (· ≠ t) = unvisited g (insert t seen) := by rw [hfresh, unvisited_insert]
      simp only [enterFresh, visitUnseen, hmem, hs, ↓reduceDIte, ↓reduceIte, List.map_cons]
      refine ⟨congrArg₂ List.cons ?_ (ih hrest hleft).1, (ih hrest hleft).2⟩
      rw [Step.outline, Move.outline, hleft]

theorem outline_through {g : Graph V L} {bound depth : Nat} {choices : Feed (List (V × L))} {fresh : Fresh V bound}
    {seen : Finset V} (hchoices : ∀ c ∈ choices.toList, ∀ e ∈ c, e.1 ∈ g.vertices)
    (hfresh : fresh.1 = unvisited g seen) :
    (choices.through chooseAndEnter fresh).toList.map Step.outline =
      (chooseAll depth choices.toList seen).map (Move.outline g) := by
  induction choices generalizing fresh seen with
  | done => rfl
  | next c rest ih =>
    obtain ⟨hentries, hleft⟩ := outline_enterFresh depth c (hchoices c (List.mem_cons_self ..)) hfresh
    have hrest := ih () (fun d hd => hchoices d (List.mem_cons_of_mem _ hd)) hleft
    rw [Feed.toList_through_next, List.map_append, Feed.toList_next, chooseAll, List.map_append, ← hrest,
      List.map_cons, ← hentries]
    rfl

/-- The steps of a search at a visit are its moves. -/
theorem outline_steps (g : Graph V L) (x : Visit V) :
    (steps (g.outEdges x.vertex) (unvisited g x.visited)).toList.map Step.outline =
      (x.moves g).map (Move.outline g) := by
  rw [steps, Feed.toList_flatMap, Feed.toList_ofList, Visit.moves, List.map_flatMap, List.map_flatMap]
  refine List.flatMap_congr fun size _ => outline_through (fun c hc e he => ?_) rfl
  exact g.mem_vertices_of_mem_outEdges ((Subset.mem_ofSize.1 hc).1.subset he)

/-- What a search does from a visit on is the course of the visit. -/
theorem moves_subgraphs_eq_course (g : Graph V L) (window : Option DepthWindow) (x : Visit V)
    (branch : Graph V L) :
    moves (subgraphs g window x.vertex (unvisited g x.visited) branch x.depth) =
      (course g window x).map Move.event := by
  -- both sides unfold the same outlines, on the left through steps and on the right through moves
  let follow : List (V × L) ⊕ V × List V → List (Event V Empty) :=
    Sum.elim (fun _ => [.choose]) fun p => moves (subgraphs g window p.1 p.2 .empty (x.depth + 1))
  have hsteps : ∀ s : Step V L (unvisited g x.visited).length, s.movesWith (fun chosen target _ fresh =>
      moves (subgraphs g window target fresh (branch.addEdges x.vertex chosen) (x.depth + 1))) =
        follow s.outline := by
    rintro (chosen | ⟨chosen, target, label, fresh, smaller⟩)
    · rfl
    · simp only [Step.movesWith, follow, Step.outline, Sum.elim_inr, ← moves_traces_eq g window target fresh []]
  rw [moves_subgraphs, course_eq]
  split
  · rw [List.flatMap_congr fun s _ => hsteps s, ← List.flatMap_map, outline_steps, List.flatMap_map, List.map_cons,
      List.map_flatMap]
    refine congrArg (List.cons (Event.expand x.depth)) (List.flatMap_congr fun m hm => ?_)
    cases m with
    | choose chosen => rfl
    | visit y =>
      have hy : Leads g x y := hm
      have := hy.unvisited_lt
      rw [Move.unfold, ← moves_subgraphs_eq_course g window y .empty, hy.enters.1]
      rfl
  · rfl
termination_by (unvisited g x.visited).length

/-- What a run does: each root is taken up and then its course is gone through. -/
def runMoves (g : Graph V L) (window : Option DepthWindow) : List (Event V Empty) :=
  g.vertices.flatMap fun root =>
    .root root (g.outDegree root) :: (course g window (.root root)).map Move.event

theorem moves_fromRoots {R : Type} (g : Graph V L) (search : V → List V → Feed (Event V R)) :
    moves (fromRoots g search) = g.vertices.flatMap fun root =>
      .root root (g.outDegree root) :: moves (search root (unvisited g {root})) := by
  rw [fromRoots, moves_flatMap, Feed.toList_ofList]
  refine List.flatMap_congr fun root _ => ?_
  rw [moves_next, unvisited_root]; rfl

theorem moves_subgraphEvents (g : Graph V L) (window : Option DepthWindow) :
    moves (subgraphEvents g window) = runMoves g window := by
  rw [subgraphEvents, moves_fromRoots]
  exact List.flatMap_congr fun root _ => congrArg _ (moves_subgraphs_eq_course g window (.root root) _)

theorem moves_traceEvents (g : Graph V L) (window : Option DepthWindow) :
    moves (traceEvents g window) = runMoves g window := by
  rw [← moves_subgraphEvents, traceEvents, subgraphEvents, moves_fromRoots, moves_fromRoots]
  exact List.flatMap_congr fun root _ => congrArg _ (moves_traces_eq ..)

end StateTraces.Enumeration
