import StateTraces.Table

/-
Directed graphs with at most one label per ordered pair of vertices. Vertices stand in order of
first mention and the out-edges of a vertex in order of first insertion; relabelling an edge keeps
its place. Every edge target is itself a vertex.
-/

namespace StateTraces

/-- A graph: each vertex with its out-edges, in order of first mention. -/
structure Graph (V L : Type) [DecidableEq V] where
  rows : Table V (Table V L)
  nodup_vertices : rows.keys.Nodup
  nodup_targets : ∀ r ∈ rows, r.2.keys.Nodup
  closed : ∀ r ∈ rows, ∀ t ∈ r.2.keys, t ∈ rows.keys

namespace Graph

variable {V L : Type} [DecidableEq V]

def empty : Graph V L := ⟨[], by simp [Table.keys], by simp, by simp⟩

instance : Inhabited (Graph V L) := ⟨empty⟩

/-! ## Reading -/

def vertices (g : Graph V L) : List V := g.rows.keys

/-- The out-edges of a vertex, as targets with labels; none if the vertex is unknown. -/
def outEdges (g : Graph V L) (v : V) : Table V L := (g.rows.get? v).getD []

def outDegree (g : Graph V L) (v : V) : Nat := (g.outEdges v).length

def label? (g : Graph V L) (source target : V) : Option L := (g.outEdges source).get? target

def hasEdge (g : Graph V L) (source target : V) : Bool := (g.label? source target).isSome

/-- All edges, source by source. -/
def edges (g : Graph V L) : List (V × V × L) :=
  g.rows.flatMap fun r => r.2.map fun e => (r.1, e.1, e.2)

def size (g : Graph V L) : Nat := g.rows.length

/-- The number of edges, counted row by row. -/
def edgeCount (g : Graph V L) : Nat := g.rows.foldl (fun n r => n + r.2.length) 0

/-- Two graphs agree when they have the same vertices and the same labelled edges, in any order. -/
def agrees [DecidableEq L] (g h : Graph V L) : Bool :=
  g.size == h.size && g.rows.all fun r =>
    match h.rows.get? r.1 with
    | none => false
    | some es => r.2.length == es.length && r.2.all fun e => es.get? e.1 == some e.2

theorem mem_vertices_of_mem_outEdges (g : Graph V L) {v : V} {e : V × L} (h : e ∈ g.outEdges v) :
    e.1 ∈ g.vertices := by
  unfold outEdges at h
  cases hr : g.rows.get? v with
  | none => simp [hr] at h
  | some es =>
    rw [hr] at h
    exact g.closed _ (Table.mem_of_get? hr) e.1 (List.mem_map_of_mem h)

/-! ## Growing -/

/-- Adds a vertex unless it is there. -/
def addVertex (g : Graph V L) (v : V) : Graph V L :=
  if h : v ∈ g.vertices then g else
    { rows := g.rows ++ [(v, [])]
      nodup_vertices := by
        simp only [Table.keys, List.map_append, List.map_cons, List.map_nil]
        rw [List.nodup_append]
        refine ⟨g.nodup_vertices, by simp, fun a ha b hb e => h ?_⟩
        rw [← List.mem_singleton.1 hb, ← e]
        exact ha
      nodup_targets := by
        intro r hr
        rcases List.mem_append.1 hr with hr | hr
        · exact g.nodup_targets r hr
        · simp only [List.mem_singleton] at hr; subst hr; simp [Table.keys]
      closed := by
        intro r hr t ht
        rcases List.mem_append.1 hr with hr | hr
        · have := g.closed r hr t ht
          simp only [Table.keys, List.map_append, List.mem_append] at this ⊢
          exact Or.inl this
        · simp only [List.mem_singleton] at hr; subst hr; simp [Table.keys] at ht }

omit [DecidableEq V] in
theorem keys_map_snd (rows : Table V (Table V L)) (f : V → Table V L → Table V L) :
    Table.keys (rows.map fun r => (r.1, f r.1 r.2)) = rows.keys := by
  simp [Table.keys, Function.comp_def]

/-- Sets the label of an edge between vertices of the graph. -/
def link (g : Graph V L) (source target : V) (label : L) (ht : target ∈ g.vertices) :
    Graph V L where
  rows := g.rows.map fun r => (r.1, if r.1 = source then r.2.set target label else r.2)
  nodup_vertices := by
    rw [keys_map_snd g.rows fun v es => if v = source then es.set target label else es]
    exact g.nodup_vertices
  nodup_targets := by
    intro r hr
    obtain ⟨s, hs, rfl⟩ := List.mem_map.1 hr
    show Table.keys (if s.1 = source then _ else _) |>.Nodup
    split
    · exact Table.nodup_keys_set (g.nodup_targets s hs)
    · exact g.nodup_targets s hs
  closed := by
    intro r hr t h
    rw [keys_map_snd g.rows fun v es => if v = source then es.set target label else es]
    obtain ⟨s, hs, rfl⟩ := List.mem_map.1 hr
    have h : t ∈ Table.keys (if s.1 = source then s.2.set target label else s.2) := h
    split at h
    · rw [Table.keys_set] at h
      split at h
      · exact g.closed s hs t h
      · rcases List.mem_append.1 h with h | h
        · exact g.closed s hs t h
        · rw [List.mem_singleton.1 h]; exact ht
    · exact g.closed s hs t h

theorem mem_vertices_addVertex_self (g : Graph V L) (v : V) : v ∈ (g.addVertex v).vertices := by
  unfold addVertex
  split
  · assumption
  · simp [vertices, Table.keys]

/-- Adds an edge, its source and its target, or sets the label of an edge that is there. -/
def addEdge (g : Graph V L) (source target : V) (label : L) : Graph V L :=
  ((g.addVertex source).addVertex target).link source target label
    (mem_vertices_addVertex_self _ target)

/-- Adds the edges from one source, in order. -/
def addEdges (g : Graph V L) (source : V) (targets : List (V × L)) : Graph V L :=
  targets.foldl (fun g e => g.addEdge source e.1 e.2) g

/-- The graph of the given vertices and then the given edges, each added in order. -/
def build (vertices : List V) (edges : List (V × V × L)) : Graph V L :=
  edges.foldl (fun g e => g.addEdge e.1 e.2.1 e.2.2) (vertices.foldl addVertex empty)

def ofEdges (edges : List (V × V × L)) : Graph V L := build [] edges

/-- The same graph with vertices and labels renamed; vertices that become equal are merged. -/
def rename {V' L' : Type} [DecidableEq V'] (g : Graph V L) (vertex : V → V') (label : L → L') :
    Graph V' L' :=
  build (g.vertices.map vertex) (g.edges.map fun e => (vertex e.1, vertex e.2.1, label e.2.2))

/-! ## Listing -/

/-- One line per vertex with out-edges: the vertex, an arrow and its targets. -/
def listing (text : V → String) (g : Graph V L) : String :=
  let lines := g.rows.filterMap fun r =>
    if r.2.isEmpty then none
    else some (text r.1 ++ " -> " ++ " ".intercalate (r.2.map fun e => text e.1))
  "\n".intercalate lines

end Graph

end StateTraces
