import Mathlib.Data.List.Perm.Subperm
import Mathlib.Data.Set.Basic
import StateTraces.Atom
import StateTraces.Proofs.Graph.History

/-
Equality of graphs. Vertices and the out-edges of each of them are tables, and two tables are equal when they
give the same value for every key, in whatever order their rows stand. So two graphs are equal when they have
the same vertices and the same labelled edges, and the order in which a graph was made can be told from it
only by the order of its rows.
-/

namespace StateTraces.Table

section Rel

variable {α β : Type} {R : α → β → Prop}

theorem rel_none_iff {a : Option α} {b : Option β} (h : Option.Rel R a b) : a = none ↔ b = none := by
  cases h with
  | none => exact iff_of_true rfl rfl
  | some hR => exact iff_of_false (Option.some_ne_none _) (Option.some_ne_none _)

theorem rel_eq_iff {a b : Option α} : Option.Rel Eq a b ↔ a = b := by
  constructor
  · intro h
    cases h with
    | none => rfl
    | some heq => rw [heq]
  · rintro rfl
    cases a with
    | none => exact .none
    | some a => exact .some rfl

end Rel

variable {κ υ : Type} [DecidableEq κ]

/-- Two tables of one length of which the second has related values for all keys of the first have related
values, or none, for every key. -/
theorem related_iff {t u : Table κ υ} (ht : t.keys.Nodup) (hu : u.keys.Nodup) (R : υ → υ → Prop) :
    (t.length = u.length ∧ ∀ r ∈ t, ∃ w, u.get? r.1 = some w ∧ R r.2 w) ↔
      ∀ k, Option.Rel R (t.get? k) (u.get? k) := by
  constructor
  · rintro ⟨hlength, hall⟩ k
    have hsub : t.keys ⊆ u.keys := by
      intro k hk
      obtain ⟨r, hr, rfl⟩ := List.mem_map.1 hk
      obtain ⟨w, hw, -⟩ := hall r hr
      by_contra hno
      rw [get?_eq_none.2 hno] at hw
      cases hw
    -- keys without repeats, as many on both sides
    have hperm : t.keys.Perm u.keys :=
      (List.subperm_of_subset ht hsub).perm_of_length_le (by simp [keys, hlength])
    cases hk : t.get? k with
    | none =>
      have hno : u.get? k = none := get?_eq_none.2 fun h => get?_eq_none.1 hk (hperm.mem_iff.2 h)
      rw [hno]
      exact .none
    | some v =>
      obtain ⟨w, hw, hR⟩ := hall (k, v) (mem_of_get? hk)
      rw [hw]
      exact .some hR
  · intro h
    have hkeys : t.keys.Perm u.keys := by
      refine (List.perm_ext_iff_of_nodup ht hu).2 fun k => not_iff_not.1 ?_
      rw [← get?_eq_none, ← get?_eq_none, rel_none_iff (h k)]
    refine ⟨by simpa [keys] using hkeys.length_eq, fun r hr => ?_⟩
    have hrel := h r.1
    rw [get?_of_mem ht hr] at hrel
    generalize u.get? r.1 = o at hrel ⊢
    cases hrel with
    | some hR => exact ⟨_, rfl, hR⟩

/-- Two tables of one length of which the second has the values of the first have the same value for every
key. -/
theorem same_iff {t u : Table κ υ} (ht : t.keys.Nodup) (hu : u.keys.Nodup) :
    (t.length = u.length ∧ ∀ r ∈ t, u.get? r.1 = some r.2) ↔ ∀ k, t.get? k = u.get? k := by
  have hrelated := related_iff ht hu Eq
  simpa only [rel_eq_iff, exists_eq_right'] using hrelated

end StateTraces.Table

namespace StateTraces.Graph

variable {V L : Type} [DecidableEq V] [DecidableEq L] {g h : Graph V L}

/-! ## What is compared -/

/-- Equal graphs are tables with the same keys, with tables for each of them that hold the same labels. -/
theorem agrees_iff_rows :
    g.agrees h = true ↔
      ∀ v, Option.Rel (fun es fs => ∀ t, Table.get? t es = Table.get? t fs) (g.rows.get? v) (h.rows.get? v) := by
  rw [← Table.related_iff g.nodup_vertices h.nodup_vertices, agrees, Bool.and_eq_true, List.all_eq_true, beq_iff_eq]
  refine and_congr Iff.rfl (forall₂_congr fun r hr => ?_)
  cases hrow : h.rows.get? r.1 with
  | none => simp
  | some fs =>
    have hfs := h.nodup_targets _ (Table.mem_of_get? hrow)
    simp only [Option.some.injEq, exists_eq_left', ← Table.same_iff (g.nodup_targets r hr) hfs,
      Bool.and_eq_true, beq_iff_eq, List.all_eq_true]

/-- Equal graphs have the same vertices and the same labels between them. -/
theorem agrees_iff_labels :
    g.agrees h = true ↔ (∀ v, v ∈ g.vertices ↔ v ∈ h.vertices) ∧ ∀ s t, g.label? s t = h.label? s t := by
  rw [agrees_iff_rows]
  constructor
  · intro hrel
    refine ⟨fun v => not_iff_not.1 ?_, fun s t => ?_⟩
    · rw [vertices, ← Table.get?_eq_none, vertices, ← Table.get?_eq_none, Table.rel_none_iff (hrel v)]
    · have hs := hrel s
      unfold label? outEdges
      generalize g.rows.get? s = a at hs ⊢
      generalize h.rows.get? s = b at hs ⊢
      cases hs with
      | none => rfl
      | some hlabels => exact hlabels t
  · rintro ⟨hvertices, hlabels⟩ v
    have hv : g.rows.get? v = none ↔ h.rows.get? v = none := by
      rw [Table.get?_eq_none, Table.get?_eq_none]
      exact not_congr (hvertices v)
    have ht := hlabels v
    unfold label? outEdges at ht
    generalize g.rows.get? v = a at hv ht ⊢
    generalize h.rows.get? v = b at hv ht ⊢
    cases a with
    | none =>
      rw [hv.1 rfl]
      exact .none
    | some es =>
      cases b with
      | none => exact absurd (hv.2 rfl) (Option.some_ne_none es)
      | some fs => exact .some ht

/-- Equal graphs have the same vertices and the same edges. -/
theorem agrees_iff_edges :
    g.agrees h = true ↔ (∀ v, v ∈ g.vertices ↔ v ∈ h.vertices) ∧ ∀ e, e ∈ g.edges ↔ e ∈ h.edges := by
  have hedge : ∀ (k : Graph V L) s t l, (s, t, l) ∈ k.edges ↔ k.label? s t = some l := fun k s t l => by
    rw [mem_edges, mem_outEdges, label?]
  rw [agrees_iff_labels]
  refine and_congr_right fun _ => ⟨?_, fun hedges s t => Option.ext fun l => ?_⟩
  · rintro hlabels ⟨s, t, l⟩
    rw [hedge, hedge, hlabels]
  · rw [← hedge, ← hedge, hedges]

/-! ## Making a graph again -/

omit [DecidableEq L] in
/-- The edges of a graph do not depend on the vertices that it was begun with. -/
theorem mem_edges_build (vs : List V) {es : List (V × V × L)} (hnd : (es.map fun e => (e.1, e.2.1)).Nodup)
    {e : V × V × L} : e ∈ (build vs es).edges ↔ e ∈ es := by
  obtain ⟨s, t, l⟩ := e
  rw [← mem_edges_ofEdges hnd, mem_edges, mem_edges, ofEdges, outEdges_build, outEdges_build]

omit [DecidableEq L] in
theorem mem_vertices_build {vs : List V} {es : List (V × V × L)} {v : V} :
    v ∈ (build vs es).vertices ↔ v ∈ vs ∨ ∃ e ∈ es, v = e.1 ∨ v = e.2.1 := by
  rw [vertices_build, List.mem_eraseDups, List.mem_append]
  simp [List.mem_flatMap]

/-- Vertices and edges may be given in any order. -/
theorem agrees_build_of_perm {vs vs' : List V} {es es' : List (V × V × L)}
    (hnd : (es.map fun e => (e.1, e.2.1)).Nodup) (hvs : vs.Perm vs') (hes : es.Perm es') :
    (build vs es).agrees (build vs' es') = true := by
  have hnd' : (es'.map fun e => (e.1, e.2.1)).Nodup := (hes.map _).nodup_iff.1 hnd
  refine agrees_iff_edges.2 ⟨fun v => ?_, fun e => ?_⟩
  · simp only [mem_vertices_build, hvs.mem_iff, hes.mem_iff]
  · rw [mem_edges_build vs hnd, mem_edges_build vs' hnd', hes.mem_iff]

end StateTraces.Graph

namespace StateTraces.AtomGraph

/-! ## Rows of atoms -/

theorem edgesOfRows_ok_iff {rows : List (List Json)} {es : List (Atom × Atom × Atom)} :
    edgesOfRows rows = .ok es ↔ rows.map edgeOfRow? = es.map some := by
  unfold edgesOfRows
  induction rows generalizing es with
  | nil => cases es <;> simp [pure, Except.pure]
  | cons row rows ih =>
    rw [List.mapM_cons, List.map_cons]
    cases hrow : edgeOfRow? row with
    | none => cases es <;> simp [bind, Except.bind]
    | some e =>
      simp only [Option.elim_some, bind, Except.bind, pure, Except.pure]
      cases hrest : rows.mapM fun row => (edgeOfRow? row).elim (.error (BadRow.mk row)) Except.ok with
      | error b =>
        refine iff_of_false (by simp) fun hmap => ?_
        obtain _ | ⟨e', es⟩ := es
        · cases hmap
        · rw [ih.2 (List.cons.inj hmap).2] at hrest
          cases hrest
      | ok rest =>
        obtain _ | ⟨e', es⟩ := es
        · simp
        · simp [← ih, hrest]

/-- Rows that are edges are edges in any order, the same ones in another order. -/
theorem edgesOfRows_perm {rows rows' : List (List Json)} {es : List (Atom × Atom × Atom)}
    (h : edgesOfRows rows = .ok es) (hperm : rows.Perm rows') :
    ∃ es', edgesOfRows rows' = .ok es' ∧ es.Perm es' := by
  have hmap := edgesOfRows_ok_iff.1 h
  have hedge : ∀ row ∈ rows', ∃ e, edgeOfRow? row = some e := by
    intro row hrow
    have hmem : edgeOfRow? row ∈ es.map some := hmap ▸ List.mem_map_of_mem (hperm.mem_iff.2 hrow)
    obtain ⟨e, -, he⟩ := List.mem_map.1 hmem
    exact ⟨e, he.symm⟩
  have hes : rows.filterMap edgeOfRow? = es :=
    calc rows.filterMap edgeOfRow?
      _ = (rows.map edgeOfRow?).filterMap id := by rw [List.filterMap_map, Function.id_comp]
      _ = (es.map some).filterMap id := by rw [hmap]
      _ = es := by simp
  refine ⟨rows'.filterMap edgeOfRow?, edgesOfRows_ok_iff.2 ?_, hes ▸ hperm.filterMap edgeOfRow?⟩
  clear h hmap hes hperm
  induction rows' with
  | nil => rfl
  | cons row rows' ih =>
    obtain ⟨e, he⟩ := hedge row (List.mem_cons_self ..)
    rw [List.map_cons, List.filterMap_cons_some he, List.map_cons, he, ih fun r hr => hedge r (List.mem_cons_of_mem _ hr)]

end StateTraces.AtomGraph

namespace StateTraces.Graph

/-! ## Equality and order -/

/-- Equality of graphs does not see the order in which they were made, and sees everything else. Edges between
different pairs of vertices make equal graphs in any order, also if they are given as rows that may leave out
the label; graphs are equal if they have the same vertices and the same edges, which is to say that one of them
is made of the vertices and edges of the other in some order; and a graph is made again by its edges alone
unless it has a vertex that none of them touches. -/
theorem equal_up_to_order (V L : Type) [DecidableEq V] [DecidableEq L] :
    (∀ es es' : List (V × V × L), (es.map fun e => (e.1, e.2.1)).Nodup → es.Perm es' →
      (ofEdges es).agrees (ofEdges es') = true) ∧
    (∀ rows rows' es, AtomGraph.edgesOfRows rows = .ok es → (es.map fun e => (e.1, e.2.1)).Nodup →
      rows.Perm rows' →
      ∃ es', AtomGraph.edgesOfRows rows' = .ok es' ∧ (ofEdges es).agrees (ofEdges es') = true) ∧
    (∀ g h : Graph V L, g.agrees h = true ↔
      {v | v ∈ g.vertices} = {v | v ∈ h.vertices} ∧ {e | e ∈ g.edges} = {e | e ∈ h.edges}) ∧
    (∀ g h : Graph V L, g.agrees h = true ↔
      ∃ vs es, vs.Perm g.vertices ∧ es.Perm g.edges ∧ build vs es = h) ∧
    ∀ g : Graph V L, (ofEdges g.edges).agrees g = true ↔ ∀ v ∈ g.vertices, ∃ e ∈ g.edges, v = e.1 ∨ v = e.2.1 := by
  refine ⟨fun es es' hnd hperm => agrees_build_of_perm hnd (.refl []) hperm, fun rows rows' es hes hnd hperm => ?_,
    fun g h => ?_, fun g h => ⟨fun hagrees => ?_, ?_⟩, fun g => ?_⟩
  · obtain ⟨es', hes', hedges⟩ := AtomGraph.edgesOfRows_perm hes hperm
    exact ⟨es', hes', agrees_build_of_perm hnd (.refl []) hedges⟩
  · rw [agrees_iff_edges, Set.ext_iff, Set.ext_iff]
    rfl
  · -- the other graph, taken apart
    obtain ⟨hvertices, hedges⟩ := agrees_iff_edges.1 hagrees
    refine ⟨h.vertices, h.edges, ?_, ?_, build_vertices_edges h⟩
    · exact (List.perm_ext_iff_of_nodup h.nodup_vertices g.nodup_vertices).2 fun v => (hvertices v).symm
    · exact (List.perm_ext_iff_of_nodup h.nodup_pairs.of_map g.nodup_pairs.of_map).2 fun e => (hedges e).symm
  · rintro ⟨vs, es, hvs, hes, rfl⟩
    have hagrees := agrees_build_of_perm g.nodup_pairs hvs.symm hes.symm
    rwa [build_vertices_edges] at hagrees
  · have hsame : ∀ e, e ∈ (ofEdges g.edges).edges ↔ e ∈ g.edges := fun e => mem_edges_build [] g.nodup_pairs
    rw [agrees_iff_edges, and_iff_left hsame]
    refine ⟨fun hvertices v hv => ?_, fun htouched v => ⟨fun hv => ?_, fun hv => ?_⟩⟩
    · exact (mem_vertices_build.1 ((hvertices v).2 hv)).resolve_left List.not_mem_nil
    · obtain ⟨e, he, hend⟩ := (mem_vertices_build.1 hv).resolve_left List.not_mem_nil
      obtain ⟨hsource, htarget⟩ := g.mem_vertices_of_mem_edges he
      rcases hend with rfl | rfl
      · exact hsource
      · exact htarget
    · exact mem_vertices_build.2 (.inr (htouched v hv))

/-- A cycle given the other way round, and two rows of which one leaves out its label. -/
theorem equal_up_to_order_cycle :
    let es : List (Nat × Nat × Nat) := [(0, 1, 7), (1, 2, 8), (2, 0, 9)]
    let rows : List (List Json) := [[.str "a", .str "b"], [.str "b", .str "a", .str "x"]]
    ((es.map fun e => (e.1, e.2.1)).Nodup ∧ es.Perm es.reverse ∧ ofEdges es ≠ ofEdges es.reverse ∧
        (ofEdges es).agrees (ofEdges es.reverse) = true) ∧
      ∃ edges edges', AtomGraph.edgesOfRows rows = .ok edges ∧ (edges.map fun e => (e.1, e.2.1)).Nodup ∧
        rows.Perm rows.reverse ∧ AtomGraph.edgesOfRows rows.reverse = .ok edges' ∧
        (ofEdges edges).agrees (ofEdges edges') = true := by
  intro es rows
  obtain ⟨hedges, hrows, -⟩ := equal_up_to_order Nat Nat
  have hnd : (es.map fun e => (e.1, e.2.1)).Nodup := by decide
  have hperm := es.reverse_perm.symm
  have hne : ofEdges es ≠ ofEdges es.reverse := fun heq => by
    have hvertices := congrArg vertices heq
    revert hvertices
    decide
  have hread : AtomGraph.edgesOfRows rows =
      .ok [(.text "a", .text "b", .nothing), (.text "b", .text "a", .text "x")] := rfl
  obtain ⟨edges', hread', hagrees⟩ := hrows rows rows.reverse _ hread (by decide) rows.reverse_perm.symm
  exact ⟨⟨hnd, hperm, hne, hedges es es.reverse hnd hperm⟩, _, edges', hread, by decide, rows.reverse_perm.symm,
    hread', hagrees⟩

end StateTraces.Graph
