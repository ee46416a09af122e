import StateTraces.Proofs.Enumeration.Branch

/-
Depth windows only select. A search inside a window hands out exactly the results of the search
without one whose depth lies in the window, in the same order: what is cut off is deeper than the
window, and nothing that is kept hangs on it. A window that reaches from the first depth to the number
of vertices selects everything, because a branch never holds more vertices than the graph.
-/

namespace StateTraces.Enumeration

/-! ## Results with their depths -/

section Tagged

variable {V R : Type}

/-- The result of an event and the depth at which it was handed out. -/
def Event.tagged? : Event V R → Option (Nat × R)
  | .result depth r => some (depth, r)
  | _ => none

/-- The results among the events, each with the depth at which it was handed out. -/
def tagged (events : Feed (Event V R)) : List (Nat × R) := events.toList.filterMap Event.tagged?

theorem results_eq_map_tagged (events : Feed (Event V R)) : results events = (tagged events).map Prod.snd := by
  unfold results tagged
  rw [List.map_filterMap]
  congr 1
  funext e
  cases e <;> rfl

theorem tagged_next (e : Event V R) (rest : Unit → Feed (Event V R)) :
    tagged (.next e rest) = e.tagged?.toList ++ tagged (rest ()) := by
  simp only [tagged, Feed.toList_next, List.filterMap_cons]
  cases e.tagged? <;> rfl

theorem tagged_append (a : Feed (Event V R)) (b : Unit → Feed (Event V R)) :
    tagged (a.append b) = tagged a ++ tagged (b ()) := by
  simp [tagged]

theorem tagged_flatMap {α : Type} (a : Feed α) (f : α → Feed (Event V R)) :
    tagged (a.flatMap f) = a.toList.flatMap fun x => tagged (f x) := by
  simp [tagged, List.filterMap_flatMap]

theorem tagged_report (window : Option DepthWindow) (depth : Nat) (r : R) :
    tagged (report window depth r : Feed (Event V R)) = if reported window depth then [(depth, r)] else [] := by
  unfold report
  split <;> rfl

end Tagged

/-! ## Windows -/

/-- The results of a list whose depth lies in a window. -/
def selected {R : Type} (w : DepthWindow) (rs : List (Nat × R)) : List (Nat × R) :=
  rs.filter fun r => w.minimum ≤ r.1 ∧ r.1 ≤ w.maximum

theorem within_none (depth : Nat) : within none depth = true := rfl

section Selected

variable {R : Type} (w : DepthWindow)

theorem reported_some (depth : Nat) :
    reported (some w) depth = true ↔ w.minimum ≤ depth ∧ depth ≤ w.maximum := by
  simp [reported, DepthWindow.admits]

theorem tagged_report_some {V : Type} (depth : Nat) (r : R) :
    tagged (report (some w) depth r : Feed (Event V R)) =
      selected w (tagged (report none depth r : Feed (Event V R))) := by
  have hall : tagged (report none depth r : Feed (Event V R)) = [(depth, r)] := rfl
  rw [tagged_report, hall, selected, List.filter_cons, List.filter_nil]
  simp only [reported_some, decide_eq_true_eq]

theorem selected_append (rs qs : List (Nat × R)) : selected w (rs ++ qs) = selected w rs ++ selected w qs :=
  List.filter_append ..

theorem flatMap_eq_selected {α : Type} {f f' : α → List (Nat × R)} {as : List α}
    (h : ∀ a ∈ as, f a = selected w (f' a)) : as.flatMap f = selected w (as.flatMap f') := by
  rw [selected, List.filter_flatMap]
  exact List.flatMap_congr h

variable {w}

/-- Nothing that is deeper than the window is selected. -/
theorem selected_eq_nil {depth : Nat} {rs : List (Nat × R)} (hbeyond : ¬ within (some w) depth = true)
    (h : ∀ r ∈ rs, depth ≤ r.1) : selected w rs = [] := by
  have hdeep : w.maximum < depth := by simpa [within] using hbeyond
  refine List.filter_eq_nil_iff.2 fun r hr => ?_
  have hle := h r hr
  simp only [decide_eq_true_eq]
  omega

/-- A window from the first depth to the last one selects everything. -/
theorem selected_eq_self {last : Nat} {rs : List (Nat × R)} (hmin : w.minimum ≤ 1) (hmax : last ≤ w.maximum)
    (h : ∀ r ∈ rs, 1 ≤ r.1 ∧ r.1 ≤ last) : selected w rs = rs := by
  refine List.filter_eq_self.2 fun r hr => ?_
  have hrange := h r hr
  simp only [decide_eq_true_eq]
  omega

end Selected

/-- Two depths resolve to the window between them. -/
theorem resolve_ofNat (a b : Nat) : DepthWindow.resolve (some a) (some b) = .ok (some (.between a b)) := by
  have hbounds : DepthWindow.checkBounds a b = .ok (a, b) := by
    rw [DepthWindow.checkBounds, if_neg (Int.not_lt.2 (Int.natCast_nonneg a)),
      if_neg (Int.not_lt.2 (Int.natCast_nonneg b))]
    rfl
  rw [DepthWindow.resolve, DepthWindow.ofBounds, hbounds]
  rfl

theorem between_bounds (w : DepthWindow) : DepthWindow.between w.minimum w.maximum = w := by
  obtain ⟨lo, hi, h⟩ := w
  simp only [DepthWindow.between, DepthWindow.mk.injEq]
  omega

variable {V L : Type} [DecidableEq V]

/-! ## Traces -/

/-- The results below a vertex lie no higher than the vertex, fewer levels below it than vertices are
fresh, and each level adds one label. -/
theorem mem_tagged_traces {g : Graph V L} {window : Option DepthWindow} {v : V} {fresh : List V} {path : List L}
    {depth : Nat} {r : Nat × List L} (h : r ∈ tagged (traces g window v fresh path depth)) :
    depth ≤ r.1 ∧ r.1 < depth + fresh.length ∧ r.2.length + depth = path.length + 1 + r.1 := by
  rw [traces] at h
  split at h
  · rw [tagged_next, tagged_flatMap] at h
    obtain ⟨s, -, hs⟩ := List.mem_flatMap.1 h
    cases s with
    | choose chosen => cases hs
    | enter chosen target label fresh' smaller =>
      rw [tagged_append, tagged_report, List.mem_append] at hs
      rcases hs with hs | hs
      · split at hs
        · cases List.mem_singleton.1 hs
          refine ⟨le_rfl, by omega, ?_⟩
          rw [List.length_append, List.length_singleton]
        · cases hs
      · have := mem_tagged_traces hs
        rw [List.length_append, List.length_singleton] at this
        omega
  · cases h
termination_by fresh.length

/-- Inside a window the search finds the results whose depth the window admits. -/
theorem tagged_traces_some (g : Graph V L) (w : DepthWindow) (v : V) (fresh : List V) (path : List L)
    (depth : Nat) :
    tagged (traces g (some w) v fresh path depth) = selected w (tagged (traces g none v fresh path depth)) := by
  by_cases hwithin : within (some w) depth = true
  · rw [traces, if_pos hwithin, traces, if_pos (within_none depth), tagged_next, tagged_next, tagged_flatMap,
      tagged_flatMap]
    refine flatMap_eq_selected w fun s _ => ?_
    cases s with
    | choose chosen => rfl
    | enter chosen target label fresh' smaller =>
      rw [tagged_append, tagged_append, selected_append, tagged_report_some,
        tagged_traces_some g w target fresh' (path ++ [label]) (depth + 1)]
  · -- the search is cut off here, and all that it would find is deeper than the window
    rw [traces, if_neg hwithin, selected_eq_nil hwithin fun r hr => (mem_tagged_traces hr).1]
    rfl
termination_by fresh.length

/-! ## Subgraphs -/

theorem mem_tagged_subgraphs {g : Graph V L} {window : Option DepthWindow} {v : V} {fresh : List V}
    {branch : Graph V L} {depth : Nat} {r : Nat × Graph V L}
    (h : r ∈ tagged (subgraphs g window v fresh branch depth)) :
    depth ≤ r.1 ∧ r.1 ≤ depth + fresh.length := by
  rw [subgraphs] at h
  split at h
  · rw [tagged_next, tagged_flatMap] at h
    obtain ⟨s, -, hs⟩ := List.mem_flatMap.1 h
    cases s with
    | choose chosen =>
      rw [tagged_next, tagged_report] at hs
      split at hs
      · cases List.mem_singleton.1 hs
        exact ⟨le_rfl, Nat.le_add_right ..⟩
      · cases hs
    | enter chosen target label fresh' smaller =>
      have := mem_tagged_subgraphs hs
      omega
  · cases h
termination_by fresh.length

theorem tagged_subgraphs_some (g : Graph V L) (w : DepthWindow) (v : V) (fresh : List V) (branch : Graph V L)
    (depth : Nat) :
    tagged (subgraphs g (some w) v fresh branch depth) =
      selected w (tagged (subgraphs g none v fresh branch depth)) := by
  by_cases hwithin : within (some w) depth = true
  · rw [subgraphs, if_pos hwithin, subgraphs, if_pos (within_none depth), tagged_next, tagged_next, tagged_flatMap,
      tagged_flatMap]
    refine flatMap_eq_selected w fun s _ => ?_
    cases s with
    | choose chosen =>
      rw [tagged_next, tagged_next, tagged_report_some]
      rfl
    | enter chosen target label fresh' smaller =>
      exact tagged_subgraphs_some g w target fresh' (branch.addEdges v chosen) (depth + 1)
  · rw [subgraphs, if_neg hwithin, selected_eq_nil hwithin fun r hr => (mem_tagged_subgraphs hr).1]
    rfl
termination_by fresh.length

/-! ## The whole run -/

theorem tagged_fromRoots {R : Type} (g : Graph V L) (search : V → List V → Feed (Event V R)) :
    tagged (fromRoots g search) =
      g.vertices.flatMap fun root => tagged (search root (g.vertices.filter (· ≠ root))) := by
  simp [fromRoots, tagged_flatMap, tagged_next, Event.tagged?]

/-- Around a root there are fewer fresh vertices than vertices. -/
theorem fresh_lt_size {g : Graph V L} {root : V} (h : root ∈ g.vertices) :
    (g.vertices.filter (· ≠ root)).length < g.size := by
  have hsize : g.size = g.vertices.length := by simp [Graph.size, Graph.vertices, Table.keys]
  exact length_filter_lt h (by simp) hsize.ge

theorem mem_tagged_traceEvents {g : Graph V L} {window : Option DepthWindow} {r : Nat × List L}
    (h : r ∈ tagged (traceEvents g window)) : r.1 = r.2.length ∧ 1 ≤ r.1 ∧ r.1 ≤ g.size := by
  rw [traceEvents, tagged_fromRoots] at h
  obtain ⟨root, hroot, h⟩ := List.mem_flatMap.1 h
  have hfresh := fresh_lt_size hroot
  have hdepth := mem_tagged_traces h
  rw [List.length_nil] at hdepth
  omega

theorem mem_tagged_subgraphEvents {g : Graph V L} {window : Option DepthWindow} {r : Nat × Graph V L}
    (h : r ∈ tagged (subgraphEvents g window)) : 1 ≤ r.1 ∧ r.1 ≤ g.size := by
  rw [subgraphEvents, tagged_fromRoots] at h
  obtain ⟨root, hroot, h⟩ := List.mem_flatMap.1 h
  have hfresh := fresh_lt_size hroot
  have hdepth := mem_tagged_subgraphs h
  omega

theorem tagged_traceEvents_some (g : Graph V L) (w : DepthWindow) :
    tagged (traceEvents g (some w)) = selected w (tagged (traceEvents g none)) := by
  rw [traceEvents, traceEvents, tagged_fromRoots, tagged_fromRoots]
  exact flatMap_eq_selected w fun root _ => tagged_traces_some ..

theorem tagged_subgraphEvents_some (g : Graph V L) (w : DepthWindow) :
    tagged (subgraphEvents g (some w)) = selected w (tagged (subgraphEvents g none)) := by
  rw [subgraphEvents, subgraphEvents, tagged_fromRoots, tagged_fromRoots]
  exact flatMap_eq_selected w fun root _ => tagged_subgraphs_some ..

/-- Inside a window both searches hand out, in the same order, the results of the search without one
whose depth lies in the window. The depth of a trace is its length, so the bounds of a window select the
traces of those lengths; a window from one to the number of vertices changes nothing. -/
theorem window_selects (g : Graph V L) (w : DepthWindow) :
    (allTraces g none = (tagged (traceEvents g none)).map Prod.snd ∧
      allTraces g (some w) = (selected w (tagged (traceEvents g none))).map Prod.snd) ∧
    (allSubgraphs g none = (tagged (subgraphEvents g none)).map Prod.snd ∧
      allSubgraphs g (some w) = (selected w (tagged (subgraphEvents g none))).map Prod.snd) ∧
    (∀ r ∈ tagged (traceEvents g none), r.1 = r.2.length) ∧
    (DepthWindow.resolve (some w.minimum) (some w.maximum) = .ok (some w) ∧
      allTraces g (some w) =
        (allTraces g none).filter (fun t => w.minimum ≤ t.length ∧ t.length ≤ w.maximum)) ∧
    (w.minimum ≤ 1 ∧ g.size ≤ w.maximum →
      allTraces g (some w) = allTraces g none ∧ allSubgraphs g (some w) = allSubgraphs g none) := by
  have htraces : allTraces g (some w) = (selected w (tagged (traceEvents g none))).map Prod.snd := by
    rw [allTraces, results_eq_map_tagged, tagged_traceEvents_some]
  have hsubgraphs : allSubgraphs g (some w) = (selected w (tagged (subgraphEvents g none))).map Prod.snd := by
    rw [allSubgraphs, results_eq_map_tagged, tagged_subgraphEvents_some]
  refine ⟨⟨results_eq_map_tagged _, htraces⟩, ⟨results_eq_map_tagged _, hsubgraphs⟩,
    fun r hr => (mem_tagged_traceEvents hr).1, ⟨?_, ?_⟩, ?_⟩
  · rw [resolve_ofNat, between_bounds]
  · -- selecting by the depth that a trace carries is selecting by its length
    rw [htraces, allTraces, results_eq_map_tagged, selected, List.filter_map]
    congr 1
    refine List.filter_congr fun r hr => ?_
    simp only [Function.comp_apply, (mem_tagged_traceEvents hr).1]
  · rintro ⟨hmin, hmax⟩
    rw [htraces, hsubgraphs, selected_eq_self hmin hmax fun r hr => (mem_tagged_traceEvents hr).2,
      selected_eq_self hmin hmax fun r hr => mem_tagged_subgraphEvents hr]
    exact ⟨(results_eq_map_tagged _).symm, (results_eq_map_tagged _).symm⟩

/-- On the cycle of two vertices, the window from one to two changes nothing. -/
theorem window_selects_cycle :
    let g : Graph Nat Nat := .ofEdges [(0, 1, 7), (1, 0, 8)]
    let w := DepthWindow.between 1 2
    (w.minimum ≤ 1 ∧ g.size ≤ w.maximum) ∧
      allTraces g (some w) = allTraces g none ∧ allSubgraphs g (some w) = allSubgraphs g none :=
  have hwide : 1 ≤ 1 ∧ (Graph.ofEdges [(0, 1, 7), (1, 0, 8)] : Graph Nat Nat).size ≤ 2 := by decide
  ⟨hwide, (window_selects _ _).2.2.2.2 hwide⟩

end StateTraces.Enumeration
