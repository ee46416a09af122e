import StateTraces.Proofs.Enumeration.Choices

/-
The entries of one size, told by what has been visited. Every target outside the visited vertices is entered
once, in order of the out-edges, and with it everything up to its own edge counts as visited. The choice that
it comes from is the first of its size that holds the edge, which is the choice made last before the entry.
Which size it is can only be seen from the choices.
-/

namespace StateTraces.Enumeration

variable {V L : Type} [DecidableEq V]

/-! ## Entries and their choices -/

/-- The targets entered are the fresh ones among those aimed at, each where it is first aimed at. -/
theorem entered_targets (as : List (Attempt V L)) (fresh : List V) :
    (enterAll as fresh).map (·.edge.1) = ((targets as).filter (· ∈ fresh)).eraseDups := by
  induction as generalizing fresh with
  | nil => rfl
  | cons a as ih =>
    obtain ⟨c, e⟩ := a
    rw [targets_cons]
    by_cases h : e.1 ∈ fresh
    · rw [enterAll, if_pos h, List.map_cons, ih, List.filter_cons_of_pos (by simpa using h), List.eraseDups_cons,
        List.filter_filter]
      congr 3
      funext v
      by_cases hv : v = e.1 <;> simp [hv]
    · rw [enterAll, if_neg h, ih, List.filter_cons_of_neg (by simpa using h)]

/-- Every entry comes from the choice that was made last before it. -/
def FromLast {bound : Nat} (group : List (Step V L bound)) : Prop :=
  ∀ p ∈ splits group, ∀ e, p.2.entered? = some e → (p.1.filterMap Step.choice?).getLast? = some e.chosen

theorem mem_enterFresh {bound : Nat} {chosen es : List (V × L)} {fresh : Fresh V bound} {s : Step V L bound}
    (h : s ∈ (enterFresh chosen es fresh).1) : s.choice? = none ∧ ∀ e, s.entered? = some e → e.chosen = chosen := by
  induction es generalizing fresh with
  | nil => cases h
  | cons e es ih =>
    obtain ⟨t, l⟩ := e
    rw [enterFresh] at h
    split at h
    · rcases List.mem_cons.1 h with rfl | h
      · exact ⟨rfl, fun e he => by rw [← Option.some.inj he]⟩
      · exact ih h
    · exact ih h

theorem fromLast_chooseAndEnter {bound : Nat} (fresh : Fresh V bound) (chosen : List (V × L)) :
    FromLast (chooseAndEnter fresh chosen).1 := by
  rintro p hp e he
  rcases List.mem_cons.1 hp with rfl | hp
  · cases he
  · obtain ⟨⟨before, s⟩, hmem, rfl⟩ := List.mem_map.1 hp
    obtain ⟨after, hentries⟩ := mem_splits.1 hmem
    have hall : ∀ t ∈ before ++ s :: after, t.choice? = none ∧ ∀ e, t.entered? = some e → e.chosen = chosen :=
      fun t ht => mem_enterFresh (hentries ▸ ht)
    have hnone : before.filterMap Step.choice? = [] :=
      List.filterMap_eq_nil_iff.2 fun t ht => (hall t (List.mem_append_left _ ht)).1
    rw [List.filterMap_cons_some (Step.choice?_choose), hnone, (hall s (by simp)).2 e he]
    rfl

omit [DecidableEq V] in
/-- Going on to the next choices leaves the entries with theirs. -/
theorem FromLast.append {bound : Nat} {l m : List (Step V L bound)} (hl : FromLast l) (hm : FromLast m) :
    FromLast (l ++ m) := by
  rintro p hp e he
  rw [splits_append] at hp
  rcases List.mem_append.1 hp with hp | hp
  · exact hl p hp e he
  · obtain ⟨q, hq, rfl⟩ := List.mem_map.1 hp
    rw [List.filterMap_append, List.getLast?_append, hm q hq e he]
    rfl

theorem fromLast_through {bound : Nat} (choices : Feed (List (V × L))) (fresh : Fresh V bound) :
    FromLast (choices.through chooseAndEnter fresh).toList := by
  induction choices generalizing fresh with
  | done => exact fun p hp => absurd hp List.not_mem_nil
  | next c rest ih =>
    rw [Feed.toList_through_next]
    exact (fromLast_chooseAndEnter fresh c).append (ih () _)

/-! ## One size -/

variable {all : List V} {edges : List (V × L)}

/-- What is entered at a position of the edges: its target, from the first choice of the size that holds the
position, with the targets up to it counted as visited. -/
def entryAt (edges : List (V × L)) (all : List V) (visited : Finset V) (size : Nat) (i : Fin edges.length) :
    Entry V L :=
  ⟨if i < size then edges.take size else edges.take (size - 1) ++ [edges[i]], edges[i],
    outside all (withTargets visited (edges.take (i + 1)))⟩

/-- The positions whose target is neither visited nor the target of an edge before. -/
def newAt (edges : List (V × L)) (visited : Finset V) : List (Fin edges.length) :=
  (List.finRange edges.length).filter fun i => edges[i].1 ∉ withTargets visited (edges.take i)

theorem entries_outside (hall : ∀ e ∈ edges, e.1 ∈ all) (visited : Finset V) {size : Nat} (hpos : 1 ≤ size)
    (hle : size ≤ edges.length) :
    (sizeGroup edges (outside all visited) size).toList.filterMap Step.entered? =
      (newAt edges visited).map (entryAt edges all visited size) := by
  rw [entered_sizeGroup edges _ hpos hle, enterAll_splits, splits_eq_finRange, List.filter_map, List.map_map, newAt]
  have hkept : ∀ i : Fin edges.length, edges[i].1 ∈ without (outside all visited) ((edges.take i).map Prod.fst) ↔
      edges[i].1 ∉ withTargets visited (edges.take i) := by
    intro i
    rw [without_outside, mem_outside]
    exact and_iff_right (hall _ (List.getElem_mem i.isLt))
  have hentry : ∀ i : Fin edges.length, (⟨firstChoice edges size (edges.take i, edges[i]), edges[i],
      without (outside all visited) ((edges.take i ++ [edges[i]]).map Prod.fst)⟩ : Entry V L) =
        entryAt edges all visited size i := by
    intro i
    have htake : edges.take i ++ [edges[i]] = edges.take (i + 1) := List.take_append_getElem i.isLt
    have hlength : (edges.take i).length = i := List.length_take_of_le (Nat.le_of_lt i.isLt)
    rw [htake, without_outside, firstChoice, hlength, entryAt]
  simp only [Function.comp_def, hkept, hentry]

theorem targets_outside (hall : ∀ e ∈ edges, e.1 ∈ all) (visited : Finset V) {size : Nat} (hpos : 1 ≤ size)
    (hle : size ≤ edges.length) :
    ((sizeGroup edges (outside all visited) size).toList.filterMap Step.entered?).map (·.edge.1) =
      ((edges.map Prod.fst).filter (· ∉ visited)).eraseDups := by
  have htargets : targets ((splits edges).map fun p => (firstChoice edges size p, p.2)) = edges.map Prod.fst := by
    rw [targets, List.map_map]
    conv_rhs => rw [← map_snd_splits edges, List.map_map]
    rfl
  rw [entered_sizeGroup edges _ hpos hle, entered_targets, htargets]
  congr 1
  refine List.filter_congr fun v hv => ?_
  obtain ⟨e, he, rfl⟩ := List.mem_map.1 hv
  rw [decide_eq_decide, mem_outside]
  exact and_iff_right (hall e he)

/-- One size at a vertex, whatever its edges and whatever was visited before, as long as `all` has the targets.
The choices are the increasing lists of `size` positions in lexicographic order, and every entry comes from the
choice that was made last. The targets that were not visited are entered, each once and in order of the edges.
The target of an edge is entered with the targets up to it counted as visited, from the first `size` edges if
it is among them and else from one edge fewer and its own. So every other size enters the same targets with the
same vertices visited. -/
theorem entered_once_in_order (hall : ∀ e ∈ edges, e.1 ∈ all) (visited : Finset V) {size : Nat} (hpos : 1 ≤ size)
    (hle : size ≤ edges.length) :
    let group := fun k => (sizeGroup edges (outside all visited) k).toList
    let entered := fun k => (group k).filterMap Step.entered?
    (∃ ps : List (List (Fin edges.length)),
      (group size).filterMap Step.choice? = ps.map (List.map edges.get) ∧
      (∀ p, p ∈ ps ↔ p.length = size ∧ p.Pairwise (· < ·)) ∧
      ps.Pairwise (List.Lex (· < ·))) ∧
    FromLast (group size) ∧
    FirstSeen ((edges.map Prod.fst).filter (· ∉ visited)) ((entered size).map (·.edge.1)) ∧
    entered size = (newAt edges visited).map (entryAt edges all visited size) ∧
    ∀ other, 1 ≤ other → other ≤ edges.length →
      (entered other).map (fun e => (e.edge, e.fresh)) = (entered size).map fun e => (e.edge, e.fresh) := by
  intro group entered
  refine ⟨⟨(Subset.ofSize size (List.finRange edges.length)).toList, ?_, fun p => ?_,
    Subset.pairwise_ofSize (List.pairwise_lt_finRange _) size⟩, fromLast_through _ _, ?_,
    entries_outside hall visited hpos hle, fun other hother hleft => ?_⟩
  · rw [← Subset.toList_ofSize_map, List.map_get_finRange]
    exact (through_chooseAndEnter _ _).2
  · rw [Subset.mem_ofSize, Subset.sublist_iff_of_sorted (List.pairwise_lt_finRange _), and_comm]
    simp [List.subset_def]
  · have htargets : (entered size).map (·.edge.1) = _ := targets_outside hall visited hpos hle
    rw [htargets]
    exact firstSeen_eraseDups _
  · have hother : entered other = _ := entries_outside hall visited hother hleft
    have hsize : entered size = _ := entries_outside hall visited hpos hle
    rw [hother, hsize, List.map_map, List.map_map]
    rfl

/-- Two of five edges at a time, with a target that is visited and one that comes twice. -/
theorem entered_once_in_order_pairs :
    let edges := [(1, "a"), (0, "b"), (2, "c"), (1, "d"), (3, "e")]
    (∀ e ∈ edges, e.1 ∈ [0, 1, 2, 3]) ∧ 1 ≤ 2 ∧ 2 ≤ edges.length ∧
      (sizeGroup edges (outside [0, 1, 2, 3] {0}) 2).toList.filterMap Step.entered? =
        [⟨[(1, "a"), (0, "b")], (1, "a"), [2, 3]⟩, ⟨[(1, "a"), (2, "c")], (2, "c"), [3]⟩,
          ⟨[(1, "a"), (3, "e")], (3, "e"), []⟩] := by
  intro edges
  have hall : ∀ e ∈ edges, e.1 ∈ [0, 1, 2, 3] := by decide
  obtain ⟨-, -, -, hentered, -⟩ := entered_once_in_order hall {0} (show 1 ≤ 2 by decide) (by decide)
  exact ⟨hall, by decide, by decide, hentered⟩

end StateTraces.Enumeration
