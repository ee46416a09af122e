import StateTraces.Proofs.Dot.Statements

/-
What a text does to the graph, told as a list of operations in the order of the text. Which vertices a
statement declares can be seen from the statement alone, so its operations can be listed without a graph
at hand: the groups among the ends of an edge statement come first, from left to right, and then the
edges between each end and the next one. Reading a text gives the graph that these operations make, and
nothing of a vertex but its identifier matters to them.
-/

namespace StateTraces.Dot

/-! ## Operations -/

/-- A change of a graph. -/
inductive Operation where
  | addVertex (name : String)
  | addEdge (source target label : String)
  deriving DecidableEq, Repr

namespace Operation

/-- The graph after an operation. -/
def apply (g : Graph String String) : Operation → Graph String String
  | .addVertex name => g.addVertex name
  | .addEdge source target label => g.addEdge source target label

/-- The graph after operations, one after another. -/
def applyAll (g : Graph String String) (ops : List Operation) : Graph String String := ops.foldl apply g

@[simp] theorem applyAll_nil (g : Graph String String) : applyAll g [] = g := rfl

theorem applyAll_append (g : Graph String String) (ops more : List Operation) :
    applyAll g (ops ++ more) = applyAll (applyAll g ops) more :=
  List.foldl_append

theorem applyAll_flatMap {α : Type} (g : Graph String String) (f : α → List Operation) (as : List α) :
    applyAll g (as.flatMap f) = as.foldl (fun g a => applyAll g (f a)) g := by
  induction as generalizing g with
  | nil => rfl
  | cons a as ih => rw [List.flatMap_cons, applyAll_append, ih, List.foldl_cons]

end Operation

/-! ## Declared vertices -/

mutual

/-- The vertices that a statement declares, each one once if it takes several together. -/
def Statement.declared : Statement → List String
  | .defaults => []
  | .assignment => []
  | .vertex name => [name]
  | .edges first more _ => (first.declared :: declaredByEach more).flatten.eraseDups
  | .group body => (declaredIn body).eraseDups

/-- The vertices that an end of an edge stands for. -/
def Endpoint.declared : Endpoint → List String
  | .vertex name => [name]
  | .group body => (declaredIn body).eraseDups

/-- All that statements declare, in order. -/
def declaredIn : List Statement → List String
  | [] => []
  | s :: rest => s.declared ++ declaredIn rest

/-- What each of some ends stands for. -/
def declaredByEach : List Endpoint → List (List String)
  | [] => []
  | e :: rest => e.declared :: declaredByEach rest

end

/-! ## Operations of a tree -/

/-- The value of the first attribute that is a label. -/
def firstLabel? (attributes : List (String × String)) : Option String :=
  (attributes.find? fun a => a.1 = "label").map Prod.snd

/-- The edges from each group of vertices to the next one; without a label, the target is the label. -/
def links (label : Option String) (groups : List (List String)) : List Operation :=
  (groups.zip groups.tail).flatMap fun p =>
    p.1.flatMap fun source => p.2.map fun target => .addEdge source target (label.getD target)

mutual

/-- The operations of a statement, in order. -/
def Statement.operations : Statement → List Operation
  | .defaults => []
  | .assignment => []
  | .vertex name => [.addVertex name]
  | .edges first more attributes =>
    first.operations ++ operationsOfEach more ++
      links (firstLabel? attributes) (first.declared :: declaredByEach more)
  | .group body => operationsIn body

/-- The operations of an end of an edge: those of its statements if it is a group. -/
def Endpoint.operations : Endpoint → List Operation
  | .vertex _ => []
  | .group body => operationsIn body

/-- The operations of statements, in order. -/
def operationsIn : List Statement → List Operation
  | [] => []
  | s :: rest => s.operations ++ operationsIn rest

/-- The operations of ends of an edge statement, from left to right. -/
def operationsOfEach : List Endpoint → List Operation
  | [] => []
  | e :: rest => e.operations ++ operationsOfEach rest

end

/-! ## Evaluation as operations -/

open Operation (applyAll)

theorem label?_eq_firstLabel? (attributes : List (String × String)) :
    label? attributes = firstLabel? attributes := by
  unfold label? firstLabel?
  induction attributes with
  | nil => rfl
  | cons a rest ih =>
    obtain ⟨key, value⟩ := a
    by_cases h : key = "label"
    · simp [Table.get?, h]
    · simp [Table.get?, h, ih]

theorem linkAll_eq (label : Option String) (sources targets : List String) (g : Graph String String) :
    linkAll label sources targets g = applyAll g (sources.flatMap fun source =>
      targets.map fun target => .addEdge source target (label.getD target)) := by
  rw [Operation.applyAll_flatMap, linkAll]
  congr 1
  funext g source
  rw [applyAll, List.foldl_map]
  rfl

theorem linkChain_eq (label : Option String) (groups : List (List String)) (g : Graph String String) :
    linkChain label groups g = applyAll g (links label groups) := by
  match groups with
  | [] => rfl
  | [_] => rfl
  | sources :: targets :: more =>
    rw [linkChain, linkAll_eq, linkChain_eq label (targets :: more), ← Operation.applyAll_append]
    rfl

mutual

/-- Evaluating a statement applies its operations, whatever the graph is, and gives what it declares. -/
theorem Statement.eval_eq (g : Graph String String) (s : Statement) :
    s.eval g = (applyAll g s.operations, s.declared) := by
  match s with
  | .defaults => rfl
  | .assignment => rfl
  | .vertex name => rfl
  | .group body =>
    rw [Statement.eval, evalStatements_eq g body]
    rfl
  | .edges first more attributes =>
    -- the edges come after all groups, but what they join is known from the ends alone
    rw [Statement.eval, Endpoint.eval_eq g first, evalEndpoints_eq _ more, Statement.operations,
      Operation.applyAll_append, Operation.applyAll_append]
    dsimp only
    rw [linkChain_eq, label?_eq_firstLabel?]
    rfl

theorem Endpoint.eval_eq (g : Graph String String) (e : Endpoint) :
    e.eval g = (applyAll g e.operations, e.declared) := by
  match e with
  | .vertex name => rfl
  | .group body =>
    rw [Endpoint.eval, evalStatements_eq g body]
    rfl

theorem evalStatements_eq (g : Graph String String) (body : List Statement) :
    evalStatements g body = (applyAll g (operationsIn body), declaredIn body) := by
  match body with
  | [] => rfl
  | s :: rest =>
    rw [evalStatements, Statement.eval_eq g s, evalStatements_eq _ rest, operationsIn, Operation.applyAll_append]
    rfl

theorem evalEndpoints_eq (g : Graph String String) (ends : List Endpoint) :
    evalEndpoints g ends = (applyAll g (operationsOfEach ends), declaredByEach ends) := by
  match ends with
  | [] => rfl
  | e :: rest =>
    rw [evalEndpoints, Endpoint.eval_eq g e, evalEndpoints_eq _ rest, operationsOfEach, Operation.applyAll_append]
    rfl

end

theorem Document.graph_eq (d : Document) : d.graph = applyAll .empty (operationsIn d.body) := by
  rw [Document.graph, evalStatements_eq]

/-! ## Identifiers -/

open Grammar

/-- A reader gives one value only. -/
theorem Gives.unique {α : Type} {n : Nat} {r : Reads α n} {v w : α} {rest rest' : List Token}
    (h : Gives r v rest) (h' : Gives r w rest') : v = w := by
  obtain ⟨a, rfl, rfl, -⟩ := h
  exact (gives_ok.1 h').1

theorem Grammar.Identifier.unique {v w : String} {ts : List Token} (h : Identifier v ts)
    (h' : Identifier w ts) : v = w :=
  (readIdentifier_complete h notAt_nil).unique (readIdentifier_complete h' notAt_nil)

theorem Grammar.Vertex.unique {v w : String} {ts : List Token} (h : Vertex v ts) (h' : Vertex w ts) : v = w :=
  (readVertex_complete h notAt_nil).unique (readVertex_complete h' notAt_nil)

/-- The places behind a vertex do not change its name. -/
theorem vertex_append_iff {name v : String} {ns ps : List Token} (hname : Identifier name ns)
    (hplaces : Anchors ps) : Vertex v (ns ++ ps) ↔ v = name := by
  constructor
  · exact fun h => h.unique (.mk hname hplaces)
  · rintro rfl
    exact .mk hname hplaces

/-- The lexemes of quoted pieces, each behind a plus sign. -/
def plusPieces (pieces : List String) : List Lexeme := pieces.flatMap fun p => [.mark '+', .quoted p]

theorem joined_of_lexemes {pieces : List String} {ts : List Token} (h : ts.map Token.lexeme = plusPieces pieces) :
    Joined (String.join pieces) ts := by
  induction pieces generalizing ts with
  | nil =>
    rw [List.map_eq_nil_iff.1 h, String.join_nil]
    exact .nil
  | cons p pieces ih =>
    obtain ⟨plus, ts, rfl, hplus, h⟩ := List.map_eq_cons_iff.1 h
    obtain ⟨t, ts, rfl, ht, h⟩ := List.map_eq_cons_iff.1 h
    rw [String.join_cons]
    exact .cons hplus ht (ih h)

/-- Quoted pieces are one identifier, and it is what they are together. -/
theorem identifier_pieces_iff {first v : String} {pieces : List String} {ts : List Token}
    (h : ts.map Token.lexeme = .quoted first :: plusPieces pieces) :
    Identifier v ts ↔ v = String.join (first :: pieces) := by
  obtain ⟨t, ts, rfl, ht, hmore⟩ := List.map_eq_cons_iff.1 h
  have hjoin : Identifier (String.join (first :: pieces)) (t :: ts) := by
    rw [String.join_cons]
    exact .quoted ht (joined_of_lexemes hmore)
  constructor
  · exact fun hv => hv.unique hjoin
  · rintro rfl
    exact hjoin

/-! ## Whole texts -/

theorem ofText_ok_iff {text : String} {d : Document} :
    Document.ofText text = .ok d ↔ ∃ ts, tokens text = .ok ts ∧ Grammar.Document d ts := by
  have hdoc : ∀ ts, Document.ofTokens ts = .ok d ↔ Grammar.Document d ts := by
    intro ts
    rw [← readDocument_iff, Document.ofTokens]
    cases readDocument ts with
    | ok e => exact ⟨fun h => congrArg Except.ok (Except.ok.inj h), fun h => congrArg Except.ok (Except.ok.inj h)⟩
    | error p => exact iff_of_false (fun h => by cases h) fun h => by cases h
  rw [Document.ofText]
  cases htokens : tokens text with
  | error f => exact iff_of_false (fun h => by cases h) fun ⟨_, h, _⟩ => by cases h
  | ok ts =>
    refine (hdoc ts).trans ⟨fun h => ⟨ts, rfl, h⟩, ?_⟩
    rintro ⟨_, he, h⟩
    cases he
    exact h

/-- A text gives a graph exactly when the grammar derives a tree from its tokens and the operations of the
tree, in order, make the graph. In the tree a vertex is its identifier alone: the places behind it do not
count, and quoted pieces are what they are together. -/
theorem graph_of_text (text : String) :
    (∀ g, (Document.ofText text).map Document.graph = .ok g ↔
      ∃ ts d, tokens text = .ok ts ∧ Grammar.Document d ts ∧ g = applyAll .empty (operationsIn d.body)) ∧
    (∀ name v ns ps, Identifier name ns → Anchors ps → (Vertex v (ns ++ ps) ↔ v = name)) ∧
    (∀ first pieces v ts, ts.map Token.lexeme = .quoted first :: plusPieces pieces →
      (Identifier v ts ↔ v = String.join (first :: pieces))) := by
  refine ⟨fun g => ?_, fun _ _ _ _ hname hplaces => vertex_append_iff hname hplaces,
    fun _ _ _ _ h => identifier_pieces_iff h⟩
  constructor
  · intro h
    cases hread : Document.ofText text with
    | error f => rw [hread] at h; cases h
    | ok d =>
      rw [hread] at h
      cases h
      obtain ⟨ts, htokens, hd⟩ := ofText_ok_iff.1 hread
      exact ⟨ts, d, htokens, hd, d.graph_eq⟩
  · rintro ⟨ts, d, htokens, hd, rfl⟩
    rw [ofText_ok_iff.2 ⟨ts, htokens, hd⟩, ← d.graph_eq]
    rfl

/-- A vertex in two pieces with a place behind it. -/
theorem graph_of_text_pieces :
    let quoted (s : String) : Token := ⟨.quoted s, .start⟩
    let mark (c : Char) : Token := ⟨.mark c, .start⟩
    Vertex "ab" ([quoted "a", mark '+', quoted "b"] ++ [mark ':', ⟨.numeral "1", .start⟩]) :=
  have hname := ((graph_of_text "").2.2 "a" ["b"] "ab" [⟨.quoted "a", .start⟩, ⟨.mark '+', .start⟩,
    ⟨.quoted "b", .start⟩] rfl).2 rfl
  have hplaces : Anchors ([⟨.mark ':', .start⟩, ⟨.numeral "1", .start⟩] : List Token) :=
    @Anchors.cons _ "1" [⟨.numeral "1", .start⟩] [] rfl (.numeral rfl) .nil
  ((graph_of_text "").2.1 "ab" "ab" _ _ hname hplaces).2 rfl

end StateTraces.Dot
