import Mathlib.Logic.Function.Basic
import StateTraces.Graph.Store
import StateTraces.Proofs.Graph

/-
Histories of graphs. Whatever is done with any number of graphs, each of them answers for what was added to
it since it was made or cleared: its vertices and the targets of each vertex come in order of first mention,
a label is the last one that was given, and what is done with one graph is not seen in another one. A copy
takes the history of its original with it and goes on with a history of its own.
-/

namespace StateTraces

variable {N V L : Type}

/-! ## What was added -/

/-- A vertex or an edge that was added to a graph. -/
inductive Mention (V L : Type) where
  | vertex (v : V)
  | edge (source target : V) (label : L)

/-- All that was added to a graph, in order. -/
abbrev History (V L : Type) := List (Mention V L)

namespace Mention

/-- The vertices mentioned: of an edge, the source before the target. -/
def vertices : Mention V L → List V
  | .vertex v => [v]
  | .edge source target _ => [source, target]

def edge? : Mention V L → Option (V × V × L)
  | .vertex _ => none
  | .edge source target label => some (source, target, label)

end Mention

namespace History

/-- The edges that were added, as often as they were. -/
def calls (h : History V L) : List (V × V × L) := h.filterMap Mention.edge?

variable [DecidableEq V]

/-- The distinct vertices, in order of first mention. -/
def vertices (h : History V L) : List V := (h.flatMap Mention.vertices).eraseDups

/-- The distinct targets of the edges from a vertex, in order of first mention. -/
def targets (h : History V L) (source : V) : List V :=
  ((h.calls.filter (·.1 = source)).map (·.2.1)).eraseDups

/-- The label that was last given to an edge. -/
def label? (h : History V L) (source target : V) : Option L :=
  ((h.calls.filter fun e => e.1 = source ∧ e.2.1 = target).getLast?).map (·.2.2)

/-- The distinct pairs of vertices between which edges were added. -/
def pairs (h : History V L) : List (V × V) := (h.calls.map fun e => (e.1, e.2.1)).eraseDups

/-! ## One more mention -/

section Append

variable (h : History V L) (v s t a b : V) (l : L)

omit [DecidableEq V] in
@[simp] theorem calls_vertex : calls (h ++ [.vertex v]) = h.calls := by
  simp [calls, Mention.edge?]

omit [DecidableEq V] in
@[simp] theorem calls_edge : calls (h ++ [.edge s t l]) = h.calls ++ [(s, t, l)] := by
  simp [calls, Mention.edge?]

theorem vertices_vertex : vertices (h ++ [.vertex v]) = (h.flatMap Mention.vertices ++ [v]).eraseDups := by
  simp [vertices, Mention.vertices]

theorem vertices_edge :
    vertices (h ++ [.edge s t l]) = (h.flatMap Mention.vertices ++ [s] ++ [t]).eraseDups := by
  simp [vertices, Mention.vertices]

theorem mem_targets : t ∈ h.targets s ↔ (s, t) ∈ h.pairs := by
  simp only [targets, pairs, List.mem_eraseDups, List.mem_map, List.mem_filter, decide_eq_true_eq, Prod.mk.injEq]
  constructor
  · rintro ⟨e, ⟨he, hs⟩, ht⟩; exact ⟨e, he, hs, ht⟩
  · rintro ⟨e, he, hs, ht⟩; exact ⟨e, ⟨he, hs⟩, ht⟩

theorem targets_edge : targets (h ++ [.edge s t l]) a =
    if a = s ∧ t ∉ h.targets a then h.targets a ++ [t] else h.targets a := by
  unfold targets
  rw [calls_edge, List.filter_append, List.map_append]
  by_cases ha : s = a
  · rw [List.filter_cons_of_pos (by simpa using ha), List.filter_nil, List.map_cons, List.map_nil,
      eraseDups_append_singleton]
    simp only [List.mem_eraseDups, ha, true_and, ite_not]
  · rw [List.filter_cons_of_neg (by simpa using ha), List.filter_nil, List.map_nil, List.append_nil,
      if_neg fun hand => ha hand.1.symm]

theorem label?_edge : label? (h ++ [.edge s t l]) a b = if a = s ∧ b = t then some l else h.label? a b := by
  unfold label?
  rw [calls_edge, List.filter_append]
  by_cases hab : s = a ∧ t = b
  · rw [List.filter_cons_of_pos (by simpa using hab), if_pos ⟨hab.1.symm, hab.2.symm⟩]
    simp
  · rw [List.filter_cons_of_neg (by simpa using hab), if_neg fun hand => hab ⟨hand.1.symm, hand.2.symm⟩]
    simp

/-- There is no last label exactly where no edge was added. -/
theorem label?_eq_none_iff : h.label? s t = none ↔ (s, t) ∉ h.pairs := by
  simp only [label?, Option.map_eq_none_iff, List.getLast?_eq_none_iff, List.filter_eq_nil_iff, pairs,
    List.mem_eraseDups, List.mem_map, Prod.mk.injEq, decide_eq_true_eq, not_exists, not_and]

theorem nodup_pairs : h.pairs.Nodup := nodup_eraseDups _

end Append

end History

/-! ## A graph and its history -/

namespace Graph

variable [DecidableEq V]

/-- The graph answers for what was added to it. -/
structure Follows (g : Graph V L) (h : History V L) : Prop where
  vertices : g.vertices = h.vertices
  targets : ∀ s, (g.outEdges s).keys = h.targets s
  label? : ∀ s t, g.label? s t = h.label? s t

variable {g : Graph V L} {h : History V L}

theorem follows_empty : Follows (empty : Graph V L) [] := ⟨rfl, fun _ => rfl, fun _ _ => rfl⟩

theorem Follows.addVertex (hf : g.Follows h) (v : V) : (g.addVertex v).Follows (h ++ [.vertex v]) where
  vertices := by
    rw [History.vertices_vertex]
    exact vertices_addVertex_of_mentions hf.vertices v
  targets s := by
    rw [outEdges_addVertex, hf.targets, History.targets, History.targets, History.calls_vertex]
  label? s t := by
    have hsame : (g.addVertex v).label? s t = g.label? s t := by
      rw [Graph.label?, Graph.label?, outEdges_addVertex]
    rw [hsame, hf.label?, History.label?, History.label?, History.calls_vertex]

theorem Follows.addEdge (hf : g.Follows h) (s t : V) (l : L) :
    (g.addEdge s t l).Follows (h ++ [.edge s t l]) where
  vertices := by
    rw [History.vertices_edge, vertices_addEdge]
    exact vertices_addVertex_of_mentions (vertices_addVertex_of_mentions hf.vertices s) t
  targets a := by
    rw [outEdges_addEdge, History.targets_edge, ← hf.targets]
    by_cases ha : a = s
    · -- setting an edge of the source again keeps the order of its targets
      rw [if_pos ha, Table.keys_set]
      simp [ha]
    · rw [if_neg ha, if_neg fun hand => ha hand.1]
  label? a b := by
    rw [History.label?_edge, ← hf.label?, Graph.label?, outEdges_addEdge, Graph.label?]
    by_cases ha : a = s
    · rw [if_pos ha, Table.get?_set]
      by_cases hb : b = t
      · simp [ha, hb]
      · simp [hb, Ne.symm hb]
    · rw [if_neg ha, if_neg fun hand => ha hand.1]

/-- A graph that is made of edges follows them. -/
theorem follows_ofEdges (edges : List (V × V × L)) :
    (ofEdges edges).Follows (edges.map fun e => .edge e.1 e.2.1 e.2.2) := by
  induction edges using List.reverseRecOn with
  | nil => exact follows_empty
  | append_singleton edges e ih =>
    rw [ofEdges_append_singleton, List.map_append]
    exact ih.addEdge e.1 e.2.1 e.2.2

/-! ## Numbers of edges -/

omit [DecidableEq V] in
theorem foldl_length_eq (rows : Table V (Table V L)) (n : Nat) :
    rows.foldl (fun n r => n + r.2.length) n = n + (rows.flatMap fun r => r.2.map fun e => (r.1, e.1, e.2)).length := by
  induction rows generalizing n with
  | nil => rfl
  | cons r rows ih => rw [List.foldl_cons, ih, List.flatMap_cons, List.length_append, List.length_map, Nat.add_assoc]

theorem edgeCount_eq (g : Graph V L) : g.edgeCount = g.edges.length := by
  rw [edgeCount, foldl_length_eq, Nat.zero_add]
  rfl

/-- Between two vertices there is at most one edge. -/
theorem nodup_pairs (g : Graph V L) : (g.edges.map fun e => (e.1, e.2.1)).Nodup := by
  have hpairs : (g.edges.map fun e => (e.1, e.2.1)) =
      g.vertices.flatMap fun v => ((g.outEdges v).map Prod.fst).map (v, ·) := by
    rw [edges_eq, List.map_flatMap]
    simp only [List.map_map, Function.comp_def]
  have hnd : g.vertices.Nodup := g.nodup_vertices
  rw [hpairs, List.nodup_flatMap]
  refine ⟨fun v _ => (g.nodup_outEdges v).map fun a b hab => (Prod.mk.inj hab).2, ?_⟩
  -- pairs with different sources differ
  refine hnd.imp fun {v w} hvw => ?_
  simp only [Function.onFun, List.disjoint_left, List.mem_map, not_exists, not_and]
  rintro p ⟨t, -, rfl⟩ u - heq
  exact hvw (Prod.mk.inj heq).1.symm

theorem mem_pairs_iff {s t : V} : (s, t) ∈ g.edges.map (fun e => (e.1, e.2.1)) ↔ t ∈ (g.outEdges s).keys := by
  simp only [List.mem_map, Prod.mk.injEq, Prod.exists, mem_edges, Table.keys]
  constructor
  · rintro ⟨_, _, l, he, rfl, rfl⟩; exact ⟨_, l, he, rfl⟩
  · rintro ⟨_, l, he, rfl⟩; exact ⟨s, _, l, he, rfl, rfl⟩

section Follows

variable (hf : g.Follows h)

include hf

theorem Follows.edges_length : g.edges.length = h.pairs.length := by
  have hperm : (g.edges.map fun e => (e.1, e.2.1)).Perm h.pairs := by
    refine (List.perm_ext_iff_of_nodup g.nodup_pairs h.nodup_pairs).2 fun p => ?_
    rw [mem_pairs_iff, hf.targets, History.mem_targets]
  rw [← hperm.length_eq, List.length_map]

theorem Follows.hasEdge (s t : V) : g.hasEdge s t = decide ((s, t) ∈ h.pairs) := by
  rw [Graph.hasEdge, hf.label?, Bool.eq_iff_iff, decide_eq_true_eq, Option.isSome_iff_ne_none, ne_eq,
    History.label?_eq_none_iff, not_not]

end Follows

/-- All that a graph has to answer for: an edge has no label exactly if it was never added, the targets of edges
are vertices, and there are as many edges as distinct pairs that were joined. -/
structure Answers (g : Graph V L) (h : History V L) : Prop extends Follows g h where
  no_label : ∀ s t, g.label? s t = none ↔ (s, t) ∉ h.pairs
  closed : ∀ s, ∀ t ∈ (g.outEdges s).keys, t ∈ g.vertices
  edgeCount : g.edgeCount = g.edges.length
  edges_length : g.edges.length = h.pairs.length

theorem Follows.answers (hf : g.Follows h) : g.Answers h where
  toFollows := hf
  no_label s t := by rw [hf.label?, History.label?_eq_none_iff]
  closed s t ht := by
    obtain ⟨e, he, rfl⟩ := List.mem_map.1 ht
    exact g.mem_vertices_of_mem_outEdges he
  edgeCount := g.edgeCount_eq
  edges_length := hf.edges_length

end Graph

/-! ## Graphs and their histories -/

/-- The histories of graphs by name. -/
abbrev Histories (N V L : Type) := N → Option (History V L)

namespace Histories

variable [DecidableEq N]

/-- Puts a history under a name, if there is one to put. -/
def put (hs : Histories N V L) (name : N) (h? : Option (History V L)) : Histories N V L :=
  h?.elim hs fun h => Function.update hs name (some h)

/-- The histories after a command. A graph that is cleared starts anew, and a copy has the history of its
original. -/
def step (hs : Histories N V L) : Graphs.Command N V L → Histories N V L
  | .addVertex name v => hs.put name ((hs name).map (· ++ [.vertex v]))
  | .addEdge name source target label => hs.put name ((hs name).map (· ++ [.edge source target label]))
  | .clear name => hs.put name ((hs name).map fun _ => [])
  | .clone name new => hs.put new (hs name)
  | .ofRows rows new => hs.put new ((rows.mapM id).map fun edges => edges.map fun e => .edge e.1 e.2.1 e.2.2)

/-- The histories that commands make, one after another. -/
def run (commands : List (Graphs.Command N V L)) : Histories N V L := commands.foldl step fun _ => none

/-- Whether the vertex or the edge that a command adds was added before. -/
def known? [DecidableEq V] (hs : Histories N V L) : Graphs.Command N V L → Option Bool
  | .addVertex name v => (hs name).map fun h => decide (v ∈ h.vertices)
  | .addEdge name source target _ => (hs name).map fun h => decide ((source, target) ∈ h.pairs)
  | .clear _ | .clone _ _ | .ofRows _ _ => none

end Histories

namespace Graphs

section Rel

variable {α α' β β' : Type} {R : α → β → Prop} {a : Option α} {b : Option β}

theorem rel_map {S : α' → β' → Prop} {f : α → α'} {k : β → β'} (h : Option.Rel R a b)
    (hfk : ∀ x y, R x y → S (f x) (k y)) : Option.Rel S (a.map f) (b.map k) := by
  cases h with
  | some hxy => exact .some (hfk _ _ hxy)
  | none => exact .none

theorem map_eq_map_of_rel {γ : Type} {f : α → γ} {k : β → γ} (h : Option.Rel R a b)
    (hfk : ∀ x y, R x y → f x = k y) : a.map f = b.map k := by
  cases h with
  | some hxy => exact congrArg some (hfk _ _ hxy)
  | none => rfl

end Rel

variable [DecidableEq N] [DecidableEq V]

/-- Each graph follows the history of its name, and there are no others. -/
def Follow (gs : Graphs N V L) (hs : Histories N V L) : Prop :=
  ∀ name, Option.Rel Graph.Follows (gs.get? name) (hs name)

variable {gs : Graphs N V L} {hs : Histories N V L}

/-- A graph that is put under a name brings its history with it. -/
theorem Follow.put (hf : gs.Follow hs) (name : N) {g? : Option (Graph V L)} {h? : Option (History V L)}
    (hput : Option.Rel Graph.Follows g? h?) : (gs.put name g?).Follow (hs.put name h?) := by
  cases hput with
  | none => exact hf
  | @some g h hfollows =>
    intro other
    show Option.Rel _ (Table.get? other (Table.set name g gs)) (Function.update hs name (some h) other)
    rw [Table.get?_set]
    by_cases hname : name = other
    · subst hname
      rw [if_pos rfl, Function.update_self]
      exact .some hfollows
    · rw [if_neg hname, Function.update_of_ne (Ne.symm hname)]
      exact hf other

/-- A command keeps graphs and histories together. -/
theorem Follow.step (hf : gs.Follow hs) (c : Command N V L) : (gs.step c).Follow (hs.step c) := by
  cases c with
  | addVertex name v => exact hf.put name (rel_map (hf name) fun g h hg => hg.addVertex v)
  | addEdge name s t l => exact hf.put name (rel_map (hf name) fun g h hg => hg.addEdge s t l)
  | clear name => exact hf.put name (rel_map (hf name) fun g h hg => Graph.follows_empty)
  | clone name new => exact hf.put new (hf name)
  | ofRows rows new =>
    have hsame : Option.Rel Eq (rows.mapM id) (rows.mapM id) := by
      cases rows.mapM id with
      | none => exact .none
      | some edges => exact .some rfl
    exact hf.put new (rel_map hsame fun edges _ heq => heq ▸ Graph.follows_ofEdges edges)

/-- Whether something is there already can be told from the histories. -/
theorem Follow.known? (hf : gs.Follow hs) (c : Command N V L) : gs.known? c = hs.known? c := by
  cases c with
  | addVertex name v => exact map_eq_map_of_rel (hf name) fun g h hg => by rw [hg.vertices]
  | addEdge name s t l => exact map_eq_map_of_rel (hf name) fun g h hg => hg.hasEdge s t
  | clear name => rfl
  | clone name new => rfl
  | ofRows rows new => rfl

end Graphs

end StateTraces
