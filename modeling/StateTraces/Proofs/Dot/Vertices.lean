import StateTraces.Proofs.Dot.Evaluation
import StateTraces.Proofs.Graph

/-
Which vertices a text gives to its graph. A node statement adds its vertex. The ends of an edge statement
are added by its edges alone, so an end needs a neighbour that stands for a vertex: an end beside empty
groups only is declared, but it is not in the graph unless another statement puts it there.
-/

namespace StateTraces.Dot

/-! ## Statements at any depth -/

mutual

/-- The statement and all statements inside its groups, at any depth. -/
def Statement.nested : Statement → List Statement
  | .defaults => [.defaults]
  | .assignment => [.assignment]
  | .vertex name => [.vertex name]
  | .edges first more attributes => .edges first more attributes :: (first.nested ++ nestedInEach more)
  | .group body => .group body :: nestedIn body

/-- The statements inside an end of an edge. -/
def Endpoint.nested : Endpoint → List Statement
  | .vertex _ => []
  | .group body => nestedIn body

def nestedIn : List Statement → List Statement
  | [] => []
  | s :: rest => s.nested ++ nestedIn rest

def nestedInEach : List Endpoint → List Statement
  | [] => []
  | e :: rest => e.nested ++ nestedInEach rest

end

/-- The name of an end that is no group. -/
def Endpoint.name? : Endpoint → Option String
  | .vertex name => some name
  | .group _ => none

/-- The identifiers in vertex position: the subject of a node statement, and the ends of an edge statement
that are no groups. -/
def Statement.names : Statement → List String
  | .vertex name => [name]
  | .edges first more _ => (first :: more).filterMap Endpoint.name?
  | _ => []

/-- The identifier stands in vertex position somewhere. -/
def Written (v : String) (body : List Statement) : Prop := ∃ s ∈ nestedIn body, v ∈ s.names

/-- The operations of a statement without those of the statements inside it. -/
def Statement.own : Statement → List Operation
  | .vertex name => [.addVertex name]
  | .edges first more attributes => links (firstLabel? attributes) ((first :: more).map Endpoint.declared)
  | _ => []

/-- The statement adds the vertex to the graph: it is about the vertex, or it has the vertex at an end
beside an end that stands for some vertex. -/
inductive Statement.Adds (v : String) : Statement → Prop where
  | vertex : Adds v (.vertex v)
  | edge {first : Endpoint} {more : List Endpoint} {attributes : List (String × String)} {e e' : Endpoint}
      (h : (e, e') ∈ (first :: more).zip more)
      (hv : v ∈ e.declared ∧ e'.declared ≠ [] ∨ e.declared ≠ [] ∧ v ∈ e'.declared) :
      Adds v (.edges first more attributes)

section Vertices

variable {v : String} {label : Option String}

/-! ## What is declared -/

theorem declaredByEach_eq_map (ends : List Endpoint) : declaredByEach ends = ends.map Endpoint.declared := by
  induction ends with
  | nil => rfl
  | cons e rest ih => rw [declaredByEach, ih, List.map_cons]

theorem mem_names_edges {first : Endpoint} {more : List Endpoint} {attributes : List (String × String)} :
    v ∈ (Statement.edges first more attributes).names ↔ .vertex v ∈ first :: more := by
  unfold Statement.names
  rw [List.mem_filterMap]
  constructor
  · rintro ⟨e, he, hv⟩
    cases e with
    | vertex name => cases hv; exact he
    | group => cases hv
  · exact fun h => ⟨_, h, rfl⟩

mutual

/-- A statement declares the identifiers in vertex position, and it declares nothing else. -/
theorem Statement.mem_declared (s : Statement) : v ∈ s.declared ↔ ∃ t ∈ s.nested, v ∈ t.names := by
  match s with
  | .defaults => simp [Statement.declared, Statement.nested, Statement.names]
  | .assignment => simp [Statement.declared, Statement.nested, Statement.names]
  | .vertex name => simp [Statement.declared, Statement.nested, Statement.names]
  | .group body =>
    rw [Statement.declared, List.mem_eraseDups, mem_declaredIn body, Statement.nested, List.exists_mem_cons_iff]
    exact (or_iff_right List.not_mem_nil).symm
  | .edges first more attributes =>
    rw [Statement.declared, List.mem_eraseDups, List.flatten_cons, List.mem_append, first.mem_declared,
      mem_declaredByEach more, Statement.nested, List.exists_mem_cons_iff, mem_names_edges, List.mem_cons]
    simp only [List.mem_append, or_and_right, exists_or]
    exact or_or_or_comm

theorem Endpoint.mem_declared (e : Endpoint) : v ∈ e.declared ↔ .vertex v = e ∨ ∃ t ∈ e.nested, v ∈ t.names := by
  match e with
  | .vertex name => simp [Endpoint.declared, Endpoint.nested]
  | .group body =>
    rw [Endpoint.declared, List.mem_eraseDups, mem_declaredIn body]
    exact (or_iff_right nofun).symm

theorem mem_declaredIn (body : List Statement) : v ∈ declaredIn body ↔ Written v body := by
  match body with
  | [] => simp [declaredIn, nestedIn, Written]
  | s :: rest =>
    rw [declaredIn, List.mem_append, s.mem_declared, mem_declaredIn rest, Written, Written, nestedIn]
    simp only [List.mem_append, or_and_right, exists_or]

theorem mem_declaredByEach (ends : List Endpoint) :
    v ∈ (declaredByEach ends).flatten ↔ .vertex v ∈ ends ∨ ∃ t ∈ nestedInEach ends, v ∈ t.names := by
  match ends with
  | [] => simp [declaredByEach, nestedInEach]
  | e :: rest =>
    rw [declaredByEach, List.flatten_cons, List.mem_append, e.mem_declared, mem_declaredByEach rest, nestedInEach,
      List.mem_cons]
    simp only [List.mem_append, or_and_right, exists_or]
    exact or_or_or_comm

end

mutual

/-- What is inside a statement inside another one is inside that one. -/
theorem Statement.nested_trans {t u : Statement} (s : Statement) (ht : t ∈ s.nested) (hu : u ∈ t.nested) :
    u ∈ s.nested := by
  match s with
  | .defaults => cases List.mem_singleton.1 ht; exact hu
  | .assignment => cases List.mem_singleton.1 ht; exact hu
  | .vertex _ => cases List.mem_singleton.1 ht; exact hu
  | .group body =>
    rcases List.mem_cons.1 ht with rfl | ht
    · exact hu
    · exact List.mem_cons_of_mem _ (nestedIn_trans body ht hu)
  | .edges first more _ =>
    rcases List.mem_cons.1 ht with rfl | ht
    · exact hu
    · refine List.mem_cons_of_mem _ (List.mem_append.2 ?_)
      exact (List.mem_append.1 ht).imp (first.nested_trans · hu) (nestedInEach_trans more · hu)

theorem Endpoint.nested_trans {t u : Statement} (e : Endpoint) (ht : t ∈ e.nested) (hu : u ∈ t.nested) :
    u ∈ e.nested := by
  match e with
  | .vertex _ => cases ht
  | .group body => exact nestedIn_trans body ht hu

theorem nestedIn_trans {t u : Statement} (body : List Statement) (ht : t ∈ nestedIn body) (hu : u ∈ t.nested) :
    u ∈ nestedIn body := by
  match body with
  | [] => cases ht
  | s :: rest =>
    refine List.mem_append.2 ((List.mem_append.1 ht).imp (fun h => ?_) (nestedIn_trans rest · hu))
    exact Statement.nested_trans s h hu

theorem nestedInEach_trans {t u : Statement} (ends : List Endpoint) (ht : t ∈ nestedInEach ends)
    (hu : u ∈ t.nested) : u ∈ nestedInEach ends := by
  match ends with
  | [] => cases ht
  | e :: rest =>
    exact List.mem_append.2 ((List.mem_append.1 ht).imp (e.nested_trans · hu) (nestedInEach_trans rest · hu))

end

/-- What a statement at some depth declares is written. -/
theorem written_of_declared {s : Statement} {body : List Statement} (hs : s ∈ nestedIn body) (hv : v ∈ s.declared) :
    Written v body := by
  obtain ⟨t, ht, hv⟩ := s.mem_declared.1 hv
  exact ⟨t, nestedIn_trans body hs ht, hv⟩

/-! ## What is added -/

mutual

/-- The operations of a statement are those of its own and those of the statements inside it. -/
theorem Statement.mem_operations (op : Operation) (s : Statement) :
    op ∈ s.operations ↔ ∃ t ∈ s.nested, op ∈ t.own := by
  match s with
  | .defaults => simp [Statement.operations, Statement.nested, Statement.own]
  | .assignment => simp [Statement.operations, Statement.nested, Statement.own]
  | .vertex name => simp [Statement.operations, Statement.nested, Statement.own]
  | .group body =>
    rw [Statement.operations, mem_operationsIn op body, Statement.nested, List.exists_mem_cons_iff]
    exact (or_iff_right List.not_mem_nil).symm
  | .edges first more attributes =>
    rw [Statement.operations, List.mem_append, List.mem_append, first.mem_operations op,
      mem_operationsOfEach op more, Statement.nested, List.exists_mem_cons_iff, Statement.own, List.map_cons,
      declaredByEach_eq_map]
    simp only [List.mem_append, or_and_right, exists_or]
    exact or_comm

theorem Endpoint.mem_operations (op : Operation) (e : Endpoint) :
    op ∈ e.operations ↔ ∃ t ∈ e.nested, op ∈ t.own := by
  match e with
  | .vertex name => simp [Endpoint.operations, Endpoint.nested]
  | .group body => rw [Endpoint.operations, mem_operationsIn op body, Endpoint.nested]

theorem mem_operationsIn (op : Operation) (body : List Statement) :
    op ∈ operationsIn body ↔ ∃ t ∈ nestedIn body, op ∈ t.own := by
  match body with
  | [] => simp [operationsIn, nestedIn]
  | s :: rest =>
    rw [operationsIn, List.mem_append, s.mem_operations op, mem_operationsIn op rest, nestedIn]
    simp only [List.mem_append, or_and_right, exists_or]

theorem mem_operationsOfEach (op : Operation) (ends : List Endpoint) :
    op ∈ operationsOfEach ends ↔ ∃ t ∈ nestedInEach ends, op ∈ t.own := by
  match ends with
  | [] => simp [operationsOfEach, nestedInEach]
  | e :: rest =>
    rw [operationsOfEach, List.mem_append, e.mem_operations op, mem_operationsOfEach op rest, nestedInEach]
    simp only [List.mem_append, or_and_right, exists_or]

end

/-- The vertices that an operation is about. -/
def Operation.ends : Operation → List String
  | .addVertex name => [name]
  | .addEdge source target _ => [source, target]

theorem Operation.mem_vertices_applyAll (ops : List Operation) (g : Graph String String) :
    v ∈ (applyAll g ops).vertices ↔ v ∈ g.vertices ∨ ∃ op ∈ ops, v ∈ op.ends := by
  induction ops generalizing g with
  | nil => simp
  | cons op ops ih =>
    have hstep : v ∈ (op.apply g).vertices ↔ v ∈ g.vertices ∨ v ∈ op.ends := by
      cases op with
      | addVertex name => simp [Operation.apply, Operation.ends, Graph.mem_vertices_addVertex]
      | addEdge source target label =>
        simp [Operation.apply, Operation.ends, Graph.vertices_addEdge, Graph.mem_vertices_addVertex, or_assoc]
    show v ∈ (applyAll (op.apply g) ops).vertices ↔ _
    rw [ih, hstep, List.exists_mem_cons_iff, or_assoc]

/-- Linked are the vertices of neighbouring groups, if both have any. -/
theorem mem_links_ends (groups : List (List String)) : (∃ op ∈ links label groups, v ∈ op.ends) ↔
    ∃ sources targets, (sources, targets) ∈ groups.zip groups.tail ∧
      (v ∈ sources ∧ targets ≠ [] ∨ sources ≠ [] ∧ v ∈ targets) := by
  simp only [links, List.mem_flatMap, List.mem_map, Prod.exists]
  constructor
  · rintro ⟨_, ⟨sources, targets, hpair, s, hs, t, ht, rfl⟩, hv⟩
    refine ⟨sources, targets, hpair, ?_⟩
    rcases List.mem_cons.1 hv with rfl | hv
    · exact .inl ⟨hs, List.ne_nil_of_mem ht⟩
    · rw [List.mem_singleton] at hv
      exact .inr ⟨List.ne_nil_of_mem hs, hv ▸ ht⟩
  · rintro ⟨sources, targets, hpair, ⟨hs, hne⟩ | ⟨hne, ht⟩⟩
    · obtain ⟨t, ht⟩ := List.exists_mem_of_ne_nil _ hne
      exact ⟨_, ⟨sources, targets, hpair, v, hs, t, ht, rfl⟩, List.mem_cons_self ..⟩
    · obtain ⟨s, hs⟩ := List.exists_mem_of_ne_nil _ hne
      exact ⟨_, ⟨sources, targets, hpair, s, hs, v, ht, rfl⟩, by simp [Operation.ends]⟩

theorem Statement.adds_iff (s : Statement) : s.Adds v ↔ ∃ op ∈ s.own, v ∈ op.ends := by
  cases s with
  | defaults => exact iff_of_false nofun (by simp [Statement.own])
  | assignment => exact iff_of_false nofun (by simp [Statement.own])
  | group body => exact iff_of_false nofun (by simp [Statement.own])
  | vertex name =>
    have hown : (∃ op ∈ (Statement.vertex name).own, v ∈ op.ends) ↔ v = name := by
      simp [Statement.own, Operation.ends]
    rw [hown]
    exact ⟨fun h => by cases h; rfl, fun h => h ▸ .vertex⟩
  | edges first more attributes =>
    rw [Statement.own, mem_links_ends, List.map_cons, List.tail_cons, ← List.map_cons, List.zip_map]
    constructor
    · rintro (_ | ⟨hpair, hv⟩)
      exact ⟨_, _, List.mem_map_of_mem hpair, hv⟩
    · rintro ⟨_, _, hpair, hv⟩
      obtain ⟨⟨e, e'⟩, hmem, heq⟩ := List.mem_map.1 hpair
      cases heq
      exact .edge hmem hv

/-- A statement adds only what it declares. -/
theorem Statement.Adds.declared {s : Statement} (h : s.Adds v) : v ∈ s.declared := by
  cases h with
  | vertex => exact List.mem_singleton_self v
  | @edge first more attributes e e' hpair hv =>
    obtain ⟨he, he'⟩ := List.of_mem_zip hpair
    rw [Statement.declared, List.mem_eraseDups, ← declaredByEach, declaredByEach_eq_map, List.mem_flatten]
    rcases hv with ⟨hv, -⟩ | ⟨-, hv⟩
    · exact ⟨_, List.mem_map_of_mem he, hv⟩
    · exact ⟨_, List.mem_map_of_mem (List.mem_cons_of_mem _ he'), hv⟩

/-- The vertices of the graph are those that some statement adds. -/
theorem Document.mem_vertices (d : Document) : v ∈ d.graph.vertices ↔ ∃ s ∈ nestedIn d.body, s.Adds v := by
  have hempty : v ∉ (Graph.empty : Graph String String).vertices := List.not_mem_nil
  rw [d.graph_eq, Operation.mem_vertices_applyAll, or_iff_right hempty]
  simp only [mem_operationsIn, Statement.adds_iff]
  constructor
  · rintro ⟨op, ⟨s, hs, hop⟩, hv⟩; exact ⟨s, hs, op, hop, hv⟩
  · rintro ⟨s, hs, op, hop, hv⟩; exact ⟨op, ⟨s, hs, hop⟩, hv⟩

end Vertices

/-! ## Neighbours -/

/-- An edge statement has more ends than its first. -/
def Statement.Joins : Statement → Prop
  | .edges _ more _ => more ≠ []
  | _ => True

namespace Grammar

mutual

/-- Whatever the grammar derives has no edge statement with one end only. -/
theorem Statement.joins {s : Dot.Statement} {ts : List Token} (h : Statement s ts) : ∀ t ∈ s.nested, t.Joins := by
  match h with
  | .defaults _ _ _ => exact List.forall_mem_singleton.2 trivial
  | .assignment _ _ _ => exact List.forall_mem_singleton.2 trivial
  | .vertex _ _ => exact List.forall_mem_singleton.2 trivial
  | .edges hfirst hmore hne _ =>
    exact List.forall_mem_cons.2 ⟨hne, List.forall_mem_append.2 ⟨hfirst.joins, hmore.joins⟩⟩
  | .group hbody => exact List.forall_mem_cons.2 ⟨trivial, hbody.joins⟩

theorem Endpoint.joins {e : Dot.Endpoint} {ts : List Token} (h : Endpoint e ts) : ∀ t ∈ e.nested, t.Joins := by
  match h with
  | .vertex _ => exact List.forall_mem_nil _
  | .group hbody => exact hbody.joins

theorem Chain.joins {es : List Dot.Endpoint} {ts : List Token} (h : Chain es ts) :
    ∀ t ∈ nestedInEach es, t.Joins := by
  match h with
  | .nil => exact List.forall_mem_nil _
  | .cons _ he hmore => exact List.forall_mem_append.2 ⟨he.joins, hmore.joins⟩

theorem Block.joins {body : List Dot.Statement} {ts : List Token} (h : Block body ts) :
    ∀ t ∈ nestedIn body, t.Joins := by
  match h with
  | .mk _ _ hbody _ => exact hbody.joins

theorem Statements.joins {body : List Dot.Statement} {ts : List Token} (h : Statements body ts) :
    ∀ t ∈ nestedIn body, t.Joins := by
  match h with
  | .nil => exact List.forall_mem_nil _
  | .cons hs _ hmore => exact List.forall_mem_append.2 ⟨hs.joins, hmore.joins⟩

end

end Grammar

/-- Every end of some has a neighbour, if there are two at least. -/
theorem exists_neighbour {α : Type} {first a : α} {more : List α} (hne : more ≠ []) (h : a ∈ first :: more) :
    ∃ b ∈ first :: more, (a, b) ∈ (first :: more).zip more ∨ (b, a) ∈ (first :: more).zip more := by
  induction more generalizing first with
  | nil => exact absurd rfl hne
  | cons next more ih =>
    rw [List.zip_cons_cons]
    rcases List.mem_cons.1 h with rfl | hmem
    · exact ⟨next, by simp, .inl (List.mem_cons_self ..)⟩
    rcases List.mem_cons.1 hmem with rfl | hmore
    · exact ⟨first, by simp, .inr (List.mem_cons_self ..)⟩
    · obtain ⟨b, hb, hpair⟩ := ih (List.ne_nil_of_mem hmore) hmem
      exact ⟨b, List.mem_cons_of_mem _ hb, hpair.imp (List.mem_cons_of_mem _) (List.mem_cons_of_mem _)⟩

/-- An end of an edge statement is in the graph if all ends stand for something. -/
theorem Statement.adds_of_declared {v : String} {first : Endpoint} {more : List Endpoint}
    {attributes : List (String × String)} (hne : more ≠ []) (hv : .vertex v ∈ first :: more)
    (hall : ∀ e ∈ first :: more, e.declared ≠ []) : (Statement.edges first more attributes).Adds v := by
  have hself : v ∈ (Endpoint.vertex v).declared := List.mem_singleton_self v
  obtain ⟨e, he, hpair | hpair⟩ := exists_neighbour hne hv
  · exact .edge hpair (.inl ⟨hself, hall e he⟩)
  · exact .edge hpair (.inr ⟨hall e he, hself⟩)

/-- What an accepted text does with the identifiers in vertex position. All of them are declared, and the
vertices of the graph are among them: those that are the subject of a node statement or belong to an end
beside an end that stands for some vertex. So an identifier is lost only where it is an end of an edge
statement with an empty group at another end, and a text without such an end loses none. -/
theorem vertices_of_text {text : String} {d : Document} (h : Document.ofText text = .ok d) :
    (∀ v, v ∈ declaredIn d.body ↔ Written v d.body) ∧
      (∀ v, v ∈ d.graph.vertices ↔ ∃ s ∈ nestedIn d.body, s.Adds v) ∧
      (∀ v ∈ d.graph.vertices, Written v d.body) ∧
      (∀ v, Written v d.body → v ∉ d.graph.vertices → ∃ first more attributes,
        .edges first more attributes ∈ nestedIn d.body ∧ .vertex v ∈ first :: more ∧
          ∃ e ∈ first :: more, e.declared = []) ∧
      ((∀ first more attributes, .edges first more attributes ∈ nestedIn d.body →
          ∀ e ∈ first :: more, e.declared ≠ []) →
        ∀ v, v ∈ d.graph.vertices ↔ Written v d.body) := by
  obtain ⟨ts, -, hderives⟩ := ofText_ok_iff.1 h
  have hjoins : ∀ t ∈ nestedIn d.body, t.Joins := by
    cases hderives with
    | mk _ _ _ hbody _ => exact hbody.joins
  have hwritten : ∀ v ∈ d.graph.vertices, Written v d.body := by
    intro v hv
    obtain ⟨s, hs, hadds⟩ := d.mem_vertices.1 hv
    exact written_of_declared hs hadds.declared
  have hlost : ∀ v, Written v d.body → v ∉ d.graph.vertices → ∃ first more attributes,
      .edges first more attributes ∈ nestedIn d.body ∧ .vertex v ∈ first :: more ∧
        ∃ e ∈ first :: more, e.declared = [] := by
    rintro v ⟨s, hs, hv⟩ hno
    have hadds : ¬ s.Adds v := fun ha => hno (d.mem_vertices.2 ⟨s, hs, ha⟩)
    cases s with
    | defaults | assignment | group body => cases hv
    | vertex name => exact absurd (List.mem_singleton.1 hv ▸ .vertex) hadds
    | edges first more attributes =>
      have hv := mem_names_edges.1 hv
      refine ⟨first, more, attributes, hs, hv, ?_⟩
      by_contra hnone
      exact hadds (Statement.adds_of_declared (hjoins _ hs) hv fun e he hempty => hnone ⟨e, he, hempty⟩)
  refine ⟨fun v => mem_declaredIn d.body, fun v => d.mem_vertices, hwritten, hlost, fun hall v =>
    ⟨hwritten v, fun hv => ?_⟩⟩
  by_contra hno
  obtain ⟨first, more, attributes, hs, -, e, he, hempty⟩ := hlost v hv hno
  exact hall first more attributes hs e he hempty

/-- The vertex of a word that is no keyword. -/
theorem vertex_word {t : Token} {name : String} (ht : t.lexeme = .word name) (hname : Text.lower name ∉ keywords) :
    Grammar.Vertex name [t] :=
  .mk (.word ht hname) .nil

/-- Statements behind the word alone. -/
theorem digraph_derived {body : List Statement} {graph opening closing : Token} {bs : List Token}
    (hgraph : graph.lexeme = .word "digraph") (hopen : opening.Mark '\x7b') (hbody : Grammar.Statements body bs)
    (hclose : closing.Mark '\x7d') : Grammar.Document ⟨none, body⟩ (graph :: opening :: bs ++ [closing]) :=
  .mk (.plain (.inr ⟨_, hgraph, by decide⟩)) .none hopen hbody hclose

/-- An edge keeps both of its ends. -/
theorem vertices_of_text_edge :
    ∃ d, Document.ofText "digraph\x7ba->b\x7d" = .ok d ∧ d.graph.vertices = ["a", "b"] ∧
      ∀ v, v ∈ d.graph.vertices ↔ Written v d.body := by
  have htokens : tokens "digraph\x7ba->b\x7d" = .ok [⟨.word "digraph", ⟨1, 1⟩⟩, ⟨.mark '\x7b', ⟨1, 8⟩⟩,
      ⟨.word "a", ⟨1, 9⟩⟩, ⟨.arrow true, ⟨1, 10⟩⟩, ⟨.word "b", ⟨1, 12⟩⟩, ⟨.mark '\x7d', ⟨1, 13⟩⟩] := by
    decide +kernel
  have hedge : Grammar.Statement (.edges (.vertex "a") [.vertex "b"] [])
      [⟨.word "a", ⟨1, 9⟩⟩, ⟨.arrow true, ⟨1, 10⟩⟩, ⟨.word "b", ⟨1, 12⟩⟩] :=
    .edges (.vertex (vertex_word rfl (by decide : Text.lower "a" ∉ keywords)))
      (.cons ⟨true, rfl⟩ (.vertex (vertex_word rfl (by decide : Text.lower "b" ∉ keywords))) .nil)
      (List.cons_ne_nil _ _) .nil
  have hbody := Grammar.Statements.cons hedge (List.forall_mem_nil _) .nil
  have h := ofText_ok_iff.2 ⟨_, htokens, digraph_derived (by rfl) (by rfl) hbody (by rfl)⟩
  refine ⟨_, h, by decide, (vertices_of_text h).2.2.2.2 fun first more attributes hs => ?_⟩
  cases List.mem_singleton.1 hs
  decide

/-- Beside an empty group, the end of an edge is lost. -/
theorem vertices_of_text_stranded :
    ∃ d, Document.ofText "digraph\x7ba->\x7b\x7d\x7d" = .ok d ∧ Written "a" d.body ∧ "a" ∈ declaredIn d.body ∧
      d.graph.vertices = [] := by
  have htokens : tokens "digraph\x7ba->\x7b\x7d\x7d" = .ok [⟨.word "digraph", ⟨1, 1⟩⟩, ⟨.mark '\x7b', ⟨1, 8⟩⟩,
      ⟨.word "a", ⟨1, 9⟩⟩, ⟨.arrow true, ⟨1, 10⟩⟩, ⟨.mark '\x7b', ⟨1, 12⟩⟩, ⟨.mark '\x7d', ⟨1, 13⟩⟩,
      ⟨.mark '\x7d', ⟨1, 14⟩⟩] := by
    decide +kernel
  have hgroup : Grammar.Block [] [⟨.mark '\x7b', ⟨1, 12⟩⟩, ⟨.mark '\x7d', ⟨1, 13⟩⟩] :=
    @Grammar.Block.mk [] ⟨.mark '\x7b', ⟨1, 12⟩⟩ ⟨.mark '\x7d', ⟨1, 13⟩⟩ [] [] .bare rfl .nil rfl
  have hedge : Grammar.Statement (.edges (.vertex "a") [.group []] [])
      [⟨.word "a", ⟨1, 9⟩⟩, ⟨.arrow true, ⟨1, 10⟩⟩, ⟨.mark '\x7b', ⟨1, 12⟩⟩, ⟨.mark '\x7d', ⟨1, 13⟩⟩] :=
    .edges (.vertex (vertex_word rfl (by decide : Text.lower "a" ∉ keywords))) (.cons ⟨true, rfl⟩ (.group hgroup) .nil)
      (List.cons_ne_nil _ _) .nil
  have hbody := Grammar.Statements.cons hedge (List.forall_mem_nil _) .nil
  have h := ofText_ok_iff.2 ⟨_, htokens, digraph_derived (by rfl) (by rfl) hbody (by rfl)⟩
  exact ⟨_, h, ⟨_, List.mem_singleton_self _, by decide⟩, by decide, by decide⟩

end StateTraces.Dot
