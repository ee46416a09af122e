import StateTraces.Graph
import StateTraces.Proofs.Table

/-
Laws of graphs: what adding a vertex or an edge does to the vertices and to the out-edges of each of
them, and what a graph made of edges holds. Vertices come in order of first mention, source before
target; an edge that is added again only changes its label.
-/

namespace StateTraces.Graph

variable {V L : Type} [DecidableEq V]

/-! ## Out-edges and edges -/

section Reading

variable (g : Graph V L)

theorem nodup_outEdges (v : V) : ((g.outEdges v).map Prod.fst).Nodup := by
  unfold outEdges
  cases h : g.rows.get? v with
  | none => simp
  | some es => exact g.nodup_targets _ (Table.mem_of_get? h)

theorem outEdges_of_not_mem {g : Graph V L} {v : V} (h : v ∉ g.vertices) : g.outEdges v = [] := by
  unfold outEdges
  rw [Table.get?_eq_none.2 h]; rfl

theorem mem_outEdges {v t : V} {l : L} : (t, l) ∈ g.outEdges v ↔ (g.outEdges v).get? t = some l :=
  ⟨Table.get?_of_mem (g.nodup_outEdges v), Table.mem_of_get?⟩

theorem mem_edges {s t : V} {l : L} : (s, t, l) ∈ g.edges ↔ (t, l) ∈ g.outEdges s := by
  unfold edges outEdges
  simp only [List.mem_flatMap, List.mem_map, Prod.mk.injEq]
  constructor
  · rintro ⟨⟨s', es⟩, hr, ⟨t', l'⟩, he, rfl, rfl, rfl⟩
    rw [Table.get?_of_mem g.nodup_vertices hr]; exact he
  · intro h
    cases hr : g.rows.get? s with
    | none => simp [hr] at h
    | some es =>
      rw [hr] at h
      exact ⟨(s, es), Table.mem_of_get? hr, (t, l), h, rfl, rfl, rfl⟩

/-- The ends of an edge are vertices. -/
theorem mem_vertices_of_mem_edges {s t : V} {l : L} (h : (s, t, l) ∈ g.edges) :
    s ∈ g.vertices ∧ t ∈ g.vertices := by
  have hout := g.mem_edges.1 h
  refine ⟨?_, g.mem_vertices_of_mem_outEdges hout⟩
  by_contra hs
  rw [outEdges_of_not_mem hs] at hout
  cases hout

end Reading

/-! ## Adding -/

theorem vertices_addVertex (g : Graph V L) (v : V) :
    (g.addVertex v).vertices = if v ∈ g.vertices then g.vertices else g.vertices ++ [v] := by
  unfold addVertex
  split
  · rfl
  · simp [vertices, Table.keys]

@[simp] theorem outEdges_addVertex (g : Graph V L) (v a : V) : (g.addVertex v).outEdges a = g.outEdges a := by
  unfold addVertex
  split
  · rfl
  · unfold outEdges
    rw [Table.get?_append]
    cases g.rows.get? a with
    | some es => rfl
    | none => simp only [Option.none_or, Table.get?]; split <;> rfl

theorem vertices_link (g : Graph V L) (s t : V) (l : L) (ht : t ∈ g.vertices) :
    (g.link s t l ht).vertices = g.vertices :=
  keys_map_snd g.rows fun v es => if v = s then es.set t l else es

theorem outEdges_link (g : Graph V L) (s t : V) (l : L) (ht : t ∈ g.vertices) (a : V) (ha : a ∈ g.vertices) :
    (g.link s t l ht).outEdges a = if a = s then (g.outEdges a).set t l else g.outEdges a := by
  have hrow := Table.get?_map (fun v es => if v = s then es.set t l else es) a g.rows
  unfold outEdges
  rw [show (g.link s t l ht).rows = g.rows.map fun r => (r.1, if r.1 = s then r.2.set t l else r.2) from rfl,
    hrow]
  cases h : g.rows.get? a with
  | none => exact absurd ha (Table.get?_eq_none.1 h)
  | some es => rfl

theorem vertices_addEdge (g : Graph V L) (s t : V) (l : L) :
    (g.addEdge s t l).vertices = ((g.addVertex s).addVertex t).vertices := vertices_link ..

theorem mem_vertices_addVertex {g : Graph V L} {v a : V} :
    a ∈ (g.addVertex v).vertices ↔ a ∈ g.vertices ∨ a = v := by
  rw [vertices_addVertex]
  split
  · rename_i h
    exact ⟨.inl, fun ha => ha.elim id fun he => he ▸ h⟩
  · simp

/-- Adding an edge sets its label among the out-edges of its source and changes no others. -/
theorem outEdges_addEdge (g : Graph V L) (s t : V) (l : L) (a : V) :
    (g.addEdge s t l).outEdges a = if a = s then (g.outEdges a).set t l else g.outEdges a := by
  unfold addEdge
  by_cases ha : a ∈ ((g.addVertex s).addVertex t).vertices
  · rw [outEdges_link _ _ _ _ _ _ ha, outEdges_addVertex, outEdges_addVertex]
  · -- a vertex that is not there afterwards is not the source and has no out-edges
    have hs : a ≠ s := fun he =>
      ha (mem_vertices_addVertex.2 (.inl (he ▸ mem_vertices_addVertex_self g s)))
    have hg : a ∉ g.vertices := fun hg =>
      ha (mem_vertices_addVertex.2 (.inl (mem_vertices_addVertex.2 (.inl hg))))
    rw [if_neg hs, outEdges_of_not_mem hg, outEdges_of_not_mem]
    rw [vertices_link]; exact ha

theorem mem_edges_addEdge {g : Graph V L} {s t a b : V} {l m : L} :
    (a, b, m) ∈ (g.addEdge s t l).edges ↔ if (a, b) = (s, t) then m = l else (a, b, m) ∈ g.edges := by
  rw [mem_edges, mem_edges, mem_outEdges, mem_outEdges, outEdges_addEdge]
  simp only [Prod.mk.injEq]
  by_cases ha : a = s
  · rw [if_pos ha, Table.get?_set]
    by_cases hb : b = t
    · simp [ha, hb, eq_comm]
    · simp [ha, hb, Ne.symm hb]
  · simp [ha]

/-! ## Graphs of edges -/

theorem ofEdges_append (es : List (V × V × L)) (v : V) (targets : List (V × L)) :
    ofEdges (es ++ targets.map (v, ·)) = (ofEdges es).addEdges v targets := by
  unfold ofEdges build addEdges
  rw [List.foldl_append, List.foldl_map]

theorem ofEdges_append_singleton (es : List (V × V × L)) (e : V × V × L) :
    ofEdges (es ++ [e]) = (ofEdges es).addEdge e.1 e.2.1 e.2.2 := by
  unfold ofEdges build
  rw [List.foldl_append]; rfl

/-- Adding a vertex mentions it. -/
theorem vertices_addVertex_of_mentions {g : Graph V L} {l : List V} (h : g.vertices = l.eraseDups) (v : V) :
    (g.addVertex v).vertices = (l ++ [v]).eraseDups := by
  rw [vertices_addVertex, eraseDups_append_singleton, h]
  simp only [List.mem_eraseDups]

theorem build_append_singleton (vs : List V) (es : List (V × V × L)) (e : V × V × L) :
    build vs (es ++ [e]) = (build vs es).addEdge e.1 e.2.1 e.2.2 :=
  List.foldl_append

/-- The vertices are the given ones and then the ends of the edges, in order of first mention. -/
theorem vertices_build (vs : List V) (es : List (V × V × L)) :
    (build vs es).vertices = (vs ++ es.flatMap fun e => [e.1, e.2.1]).eraseDups := by
  induction es using List.reverseRecOn with
  | nil =>
    rw [List.flatMap_nil, List.append_nil]
    induction vs using List.reverseRecOn with
    | nil => rfl
    | append_singleton vs v ih =>
      have hstep : build (L := L) (vs ++ [v]) [] = (build vs []).addVertex v := List.foldl_append
      rw [hstep]
      exact vertices_addVertex_of_mentions ih v
  | append_singleton es e ih =>
    have hends : vs ++ (es ++ [e]).flatMap (fun e => [e.1, e.2.1]) =
        vs ++ es.flatMap (fun e => [e.1, e.2.1]) ++ [e.1] ++ [e.2.1] := by simp
    rw [build_append_singleton, vertices_addEdge, hends]
    exact vertices_addVertex_of_mentions (vertices_addVertex_of_mentions ih e.1) e.2.1

/-- The vertices are the ends of the edges, in order of first mention. -/
theorem vertices_ofEdges (es : List (V × V × L)) :
    (ofEdges es).vertices = (es.flatMap fun e => [e.1, e.2.1]).eraseDups :=
  vertices_build [] es

/-- The out-edges of a vertex are the given edges from it, set one after another. -/
theorem outEdges_build (vs : List V) (es : List (V × V × L)) (a : V) :
    (build vs es).outEdges a = Table.merge [] ((es.filter (·.1 = a)).map Prod.snd) := by
  induction es using List.reverseRecOn with
  | nil =>
    rw [List.filter_nil, List.map_nil]
    induction vs using List.reverseRecOn with
    | nil => rfl
    | append_singleton vs v ih =>
      have hstep : build (L := L) (vs ++ [v]) [] = (build vs []).addVertex v := List.foldl_append
      rw [hstep, outEdges_addVertex, ih]
  | append_singleton es e ih =>
    rw [build_append_singleton, outEdges_addEdge, ih, List.filter_append, List.map_append]
    by_cases he : e.1 = a
    · rw [if_pos he.symm, List.filter_cons_of_pos (by simpa using he), List.filter_nil]
      exact (Table.merge_append_singleton ..).symm
    · rw [if_neg fun h => he h.symm, List.filter_cons_of_neg (by simpa using he), List.filter_nil,
        List.map_nil, List.append_nil]

/-- Edges between different pairs of vertices are all kept as they are. -/
theorem mem_edges_ofEdges {es : List (V × V × L)} (h : (es.map fun e => (e.1, e.2.1)).Nodup) {e : V × V × L} :
    e ∈ (ofEdges es).edges ↔ e ∈ es := by
  induction es using List.reverseRecOn with
  | nil => rfl
  | append_singleton es d ih =>
    obtain ⟨a, b, m⟩ := e
    obtain ⟨s, t, l⟩ := d
    rw [List.map_append, List.nodup_append] at h
    obtain ⟨hnd, -, hnew⟩ := h
    rw [ofEdges_append_singleton, mem_edges_addEdge, ih hnd, List.mem_append, List.mem_singleton]
    split
    · rename_i hab
      cases hab
      have hno : (s, t, m) ∉ es := fun he =>
        hnew (s, t) (List.mem_map.2 ⟨_, he, rfl⟩) (s, t) (List.mem_singleton_self _) rfl
      simp [hno]
    · rename_i hab
      refine ⟨.inl, fun hmem => hmem.resolve_right fun heq => hab ?_⟩
      cases heq; rfl

/-! ## A graph from what it holds -/

theorem rows_eq (g : Graph V L) : g.rows = g.vertices.map fun v => (v, g.outEdges v) := by
  have hrow : ∀ r ∈ g.rows, (r.1, g.outEdges r.1) = r := fun r hr => by
    rw [outEdges, Table.get?_of_mem g.nodup_vertices hr]
    rfl
  rw [vertices, Table.keys, List.map_map]
  exact (List.map_congr_left hrow |>.trans (List.map_id _)).symm

/-- A graph is its vertices in order and the out-edges of each of them. -/
theorem eq_of_outEdges {g h : Graph V L} (hvertices : g.vertices = h.vertices)
    (houts : ∀ v, g.outEdges v = h.outEdges v) : g = h := by
  have hrows : g.rows = h.rows := by
    rw [g.rows_eq, h.rows_eq, hvertices]
    exact List.map_congr_left fun v _ => congrArg _ (houts v)
  cases g; cases h; cases hrows
  rfl

theorem edges_eq (g : Graph V L) : g.edges = g.vertices.flatMap fun v => (g.outEdges v).map (v, ·) := by
  rw [edges, rows_eq, List.flatMap_map]

/-- The edges from a vertex are its out-edges, in their order. -/
theorem edges_filter (g : Graph V L) (a : V) : g.edges.filter (·.1 = a) = (g.outEdges a).map (a, ·) := by
  have hrow : ∀ v, ((g.outEdges v).map (v, ·)).filter (·.1 = a) =
      if v = a then (g.outEdges v).map (v, ·) else [] := fun v => by
    by_cases h : v = a <;> simp [List.filter_map, Function.comp_def, h]
  have hnd : g.vertices.Nodup := g.nodup_vertices
  rw [edges_eq, List.filter_flatMap, funext hrow, flatMap_if_eq hnd]
  split
  · rfl
  · rename_i ha
    rw [outEdges_of_not_mem ha, List.map_nil]

theorem ends_subset (g : Graph V L) : (g.edges.flatMap fun e => [e.1, e.2.1]) ⊆ g.vertices := by
  intro v hv
  obtain ⟨⟨s, t, l⟩, he, hv⟩ := List.mem_flatMap.1 hv
  obtain ⟨hs, ht⟩ := g.mem_vertices_of_mem_edges he
  rcases List.mem_pair.1 hv with rfl | rfl
  · exact hs
  · exact ht

/-- The vertices and the edges of a graph make the graph again. -/
theorem build_vertices_edges (g : Graph V L) : build g.vertices g.edges = g := by
  refine eq_of_outEdges ?_ fun v => ?_
  · -- the ends of edges are vertices already
    have hsame : SameMentions (g.vertices ++ g.edges.flatMap fun e => [e.1, e.2.1]) g.vertices :=
      .append_of_subset g.ends_subset
    have hnd : g.vertices.Nodup := g.nodup_vertices
    rw [vertices_build, hsame, eraseDups_of_nodup hnd]
  · rw [outEdges_build, edges_filter, List.map_map]
    exact (congrArg _ (List.map_id _)).trans (Table.merge_nil (g.nodup_outEdges v))

/-! ## Renaming -/

section Renaming

variable {V' L' : Type} [DecidableEq V'] {f : V → V'} (hf : Function.Injective f) (l : L → L') (g : Graph V L)

include hf

theorem vertices_rename : (g.rename f l).vertices = g.vertices.map f := by
  have hends : (g.edges.map fun e => (f e.1, f e.2.1, l e.2.2)).flatMap (fun e => [e.1, e.2.1]) =
      (g.edges.flatMap fun e => [e.1, e.2.1]).map f := by
    simp [List.flatMap_map, List.map_flatMap]
  have hsame : SameMentions (g.vertices.map f ++ (g.edges.flatMap fun e => [e.1, e.2.1]).map f) (g.vertices.map f) :=
    .append_of_subset (List.map_subset f g.ends_subset)
  have hnd : (g.vertices.map f).Nodup := g.nodup_vertices.map hf
  rw [rename, vertices_build, hends, hsame, eraseDups_of_nodup hnd]

theorem outEdges_rename (v : V) : (g.rename f l).outEdges (f v) = (g.outEdges v).map (Prod.map f l) := by
  have hnd : Table.keys ((g.outEdges v).map (Prod.map f l)) |>.Nodup := by
    rw [Table.keys, List.map_map, show Prod.fst ∘ Prod.map f l = f ∘ Prod.fst from rfl, ← List.map_map]
    exact (g.nodup_outEdges v).map hf
  rw [rename, outEdges_build, List.filter_map]
  simp only [Function.comp_def, hf.eq_iff]
  rw [edges_filter, List.map_map, List.map_map]
  exact Table.merge_nil hnd

theorem outDegree_rename (v : V) : (g.rename f l).outDegree (f v) = g.outDegree v := by
  rw [outDegree, outEdges_rename hf, List.length_map, outDegree]

end Renaming

end StateTraces.Graph
