import StateTraces.Dot.Printer
import StateTraces.Proofs.Dot.Evaluation
import StateTraces.Proofs.Dot.Lexing
import StateTraces.Proofs.Graph

/-
Reading what was printed. A graph is printed as the operations that make it, one statement for each of
them. The text is cut into the lexemes of these statements, the grammar derives the statements from the
lexemes, and evaluating them does the operations in the order in which the graph holds its vertices and
its edges.
-/

namespace StateTraces.Dot

namespace Operation

/-! ## Operations as statements -/

/-- The statement of an operation. -/
def statement : Operation → Statement
  | .addVertex name => .vertex name
  | .addEdge source target label => .edges (.vertex source) [.vertex target] [("label", label)]

/-- The text of that statement. -/
def text : Operation → List Char
  | .addVertex name => enquote name ++ [';']
  | .addEdge source target label =>
    enquote source ++ " -> ".toList ++ enquote target ++ " [label=".toList ++ enquote label ++ "];".toList

/-- The lexemes of that statement, without the semicolon behind it. -/
def lexemes : Operation → List Lexeme
  | .addVertex name => [.quoted name]
  | .addEdge source target label => [.quoted source, .arrow true, .quoted target, .mark '[', .word "label",
      .mark '=', .quoted label, .mark ']']

/-- All texts of an operation can be put in quotes. -/
def Printable : Operation → Prop
  | .addVertex name => Quotable name.toList
  | .addEdge source target label =>
    Quotable source.toList ∧ Quotable target.toList ∧ Quotable label.toList

theorem operations_statement (op : Operation) : op.statement.operations = [op] := by
  cases op with
  | addVertex name => rfl
  | addEdge source target label =>
    simp [statement, Statement.operations, Endpoint.operations, operationsOfEach, Endpoint.declared,
      declaredByEach, links, firstLabel?]

theorem operationsIn_statements (ops : List Operation) : operationsIn (ops.map statement) = ops := by
  induction ops with
  | nil => rfl
  | cons op ops ih => rw [List.map_cons, operationsIn, operations_statement, ih]; rfl

/-! ## From the text to its lexemes -/

section Text

variable {rest : List Char} {ls : List Lexeme} {b : Bool}

theorem lexes_text {op : Operation} (hop : op.Printable) (h : Lexes false rest ls) :
    Lexes b (op.text ++ rest) (op.lexemes ++ .mark ';' :: ls) := by
  have hsemicolon : ∀ b, Lexes b (';' :: rest) (.mark ';' :: ls) := fun b => lexes_mark (by decide) h
  cases op with
  | addVertex name =>
    rw [text, List.append_assoc]
    exact lexes_enquote hop (hsemicolon false)
  | addEdge source target label =>
    obtain ⟨hsource, htarget, hlabel⟩ := hop
    -- from the end to the front, as a lexeme is put before the lexemes of the rest
    have hclose : Lexes false ("];".toList ++ rest) (.mark ']' :: .mark ';' :: ls) :=
      lexes_mark (by decide) (hsemicolon false)
    have hvalue : Lexes false ('=' :: (enquote label ++ ("];".toList ++ rest))) _ :=
      lexes_mark (by decide) (lexes_enquote hlabel hclose)
    have hkey : Lexes false ("label=".toList ++ (enquote label ++ ("];".toList ++ rest))) _ :=
      lexes_word (c := 'l') (w := "abel".toList) (by decide) (by decide) (by rintro d ⟨⟩; rfl) hvalue
    have hattributes : Lexes false (" [label=".toList ++ (enquote label ++ ("];".toList ++ rest))) _ :=
      lexes_space fun b => lexes_mark (by decide) hkey
    have hends : Lexes false (" -> ".toList ++ (enquote target ++ (" [label=".toList ++ (enquote label ++
        ("];".toList ++ rest))))) _ :=
      lexes_space fun b => lexes_arrow (lexes_space fun b => lexes_enquote htarget hattributes)
    simp only [text, List.append_assoc]
    exact lexes_enquote hsource hends

end Text

end Operation

/-- The text of operations, with the same gap before every statement and before the closing brace. -/
def printed (gap : List Char) (ops : List Operation) : String :=
  String.ofList ("digraph \x7b".toList ++ (ops.flatMap (fun op => gap ++ op.text) ++ (gap ++ ['\x7d'])))

/-- The lexemes of operations as statements, each closed by a semicolon. -/
def statementLexemes (ops : List Operation) : List Lexeme := ops.flatMap fun op => op.lexemes ++ [.mark ';']

theorem lexes_statements {gap rest : List Char} {ls : List Lexeme} {ops : List Operation} (hgap : Gap gap)
    (hops : ∀ op ∈ ops, op.Printable) (h : Lexes false rest ls) :
    Lexes false (ops.flatMap (fun op => gap ++ op.text) ++ rest) (statementLexemes ops ++ ls) := by
  induction ops with
  | nil => exact h
  | cons op ops ih =>
    have hmore := ih fun o ho => hops o (List.mem_cons_of_mem _ ho)
    have hop : op.Printable := hops op (List.mem_cons_self ..)
    simp only [statementLexemes, List.flatMap_cons, List.append_assoc]
    exact lexes_gap hgap (fun _ => op.lexes_text hop hmore) false

/-- The lexemes of a printed text. -/
theorem lexes_printed {gap : List Char} {ops : List Operation} (hgap : Gap gap)
    (hops : ∀ op ∈ ops, op.Printable) : Lexes true (printed gap ops).toList
      (.word "digraph" :: .mark '\x7b' :: (statementLexemes ops ++ [.mark '\x7d'])) := by
  have hclose : Lexes false (gap ++ ['\x7d']) [.mark '\x7d'] :=
    lexes_gap hgap (fun _ => lexes_mark (by decide) lexes_nil) false
  have hbrace : Lexes false (' ' :: '\x7b' :: (ops.flatMap (fun op => gap ++ op.text) ++ (gap ++ ['\x7d']))) _ :=
    lexes_space fun _ => lexes_mark (by decide) (lexes_statements hgap hops hclose)
  have hopening : "digraph \x7b".toList = 'd' :: (['i', 'g', 'r', 'a', 'p', 'h'] ++ [' ', '\x7b']) := rfl
  have hspace : continuesWord ' ' = false := rfl
  unfold printed
  rw [String.toList_ofList, hopening]
  exact lexes_word (c := 'd') (w := ['i', 'g', 'r', 'a', 'p', 'h']) (by decide) (by decide) (by simpa using hspace)
    hbrace

/-! ## From the lexemes to the tree -/

open Grammar

theorem identifier_quoted {t : Token} {s : String} (h : t.lexeme = .quoted s) : Identifier s [t] := by
  have hjoined : Identifier (s ++ "") [t] := .quoted h .nil
  rwa [String.append_empty] at hjoined

theorem vertex_quoted {t : Token} {name : String} (h : t.lexeme = .quoted name) : Vertex name [t] :=
  .mk (identifier_quoted h) .nil

theorem Operation.statement_derived {op : Operation} {ts : List Token} (h : ts.map Token.lexeme = op.lexemes) :
    Grammar.Statement op.statement ts := by
  cases op with
  | addVertex name =>
    simp only [lexemes, List.map_eq_cons_iff, List.map_eq_nil_iff] at h
    obtain ⟨t, _, rfl, ht, rfl⟩ := h
    exact .vertex (vertex_quoted ht) .nil
  | addEdge source target label =>
    simp only [lexemes, List.map_eq_cons_iff, List.map_eq_nil_iff] at h
    obtain ⟨s, _, rfl, hs, arrow, _, rfl, harrow, t, _, rfl, ht, opening, _, rfl, hopen, key, _, rfl, hkey,
      eq, _, rfl, heq, value, _, rfl, hvalue, closing, _, rfl, hclose, rfl⟩ := h
    have hends : Chain [.vertex target] [arrow, t] := .cons ⟨true, harrow⟩ (.vertex (vertex_quoted ht)) .nil
    have hattribute : Attribute ("label", label) [key, eq, value] :=
      .pair (.word hkey (by decide +kernel)) heq (identifier_quoted hvalue)
    have hattributes : Attributes [("label", label)] ([key, eq, value] ++ [] ++ []) :=
      .cons hattribute (fun _ h => absurd h List.not_mem_nil) .nil
    have hlist : AttributeLists [("label", label)] [opening, key, eq, value, closing] :=
      .cons hopen hattributes hclose .nil
    exact .edges (.vertex (vertex_quoted hs)) hends (by simp) hlist

theorem statements_derived {ops : List Operation} {ts : List Token} (h : ts.map Token.lexeme = statementLexemes ops) :
    Statements (ops.map Operation.statement) ts := by
  induction ops generalizing ts with
  | nil =>
    rw [List.map_eq_nil_iff.1 h]
    exact .nil
  | cons op ops ih =>
    rw [statementLexemes, List.flatMap_cons] at h
    obtain ⟨front, more, rfl, hfront, hmore⟩ := List.map_eq_append_iff.1 h
    obtain ⟨ss, seps, rfl, hss, hseps⟩ := List.map_eq_append_iff.1 hfront
    have hseparators : ∀ t ∈ seps, t.Separator := by
      intro t ht
      have hmem := List.mem_map_of_mem (f := Token.lexeme) ht
      rw [hseps] at hmem
      exact .inl (List.mem_singleton.1 hmem)
    exact .cons (op.statement_derived hss) hseparators (ih hmore)

theorem document_derived {ops : List Operation} {ts : List Token} (h : ts.map Token.lexeme =
    .word "digraph" :: .mark '\x7b' :: (statementLexemes ops ++ [.mark '\x7d'])) :
    Grammar.Document ⟨none, ops.map Operation.statement⟩ ts := by
  obtain ⟨digraph, _, rfl, hword, h⟩ := List.map_eq_cons_iff.1 h
  obtain ⟨opening, _, rfl, hopen, h⟩ := List.map_eq_cons_iff.1 h
  obtain ⟨bs, _, rfl, hbody, h⟩ := List.map_eq_append_iff.1 h
  obtain ⟨closing, rfl, hclose⟩ := List.map_eq_singleton_iff.1 h
  have hkeyword : digraph.Keyword "digraph" := ⟨"digraph", hword, by decide +kernel⟩
  exact .mk (.plain (.inr hkeyword)) .none hopen (statements_derived hbody) hclose

/-- Printed operations are read back, one statement for each of them. -/
theorem ofText_printed {gap : List Char} {ops : List Operation} (hgap : Gap gap)
    (hops : ∀ op ∈ ops, op.Printable) :
    Document.ofText (printed gap ops) = .ok ⟨none, ops.map Operation.statement⟩ := by
  obtain ⟨ts, htokens, hlexemes⟩ := lexes_printed hgap hops .start
  exact ofText_ok_iff.2 ⟨ts, htokens, document_derived hlexemes⟩

/-! ## Graphs -/

open Operation (applyAll)

/-- The operations that make a graph: its vertices in order and then its edges. -/
def operationsOf (g : Graph String String) : List Operation :=
  g.vertices.map .addVertex ++ g.edges.map fun e => .addEdge e.1 e.2.1 e.2.2

theorem applyAll_operationsOf (g : Graph String String) : applyAll .empty (operationsOf g) = g := by
  rw [operationsOf, Operation.applyAll_append, applyAll, applyAll, List.foldl_map, List.foldl_map]
  exact g.build_vertices_edges

theorem print_eq (g : Graph String String) : print g = printed [' '] (operationsOf g) := by
  have hvertex : vertexText = fun v => [' '] ++ (Operation.addVertex v).text := funext fun v => by
    simp [vertexText, Operation.text]
  have hedge : edgeText = fun e => [' '] ++ (Operation.addEdge e.1 e.2.1 e.2.2).text := funext fun e => by
    simp [edgeText, Operation.text]
  unfold print printed operationsOf
  rw [List.flatMap_append, List.flatMap_map, List.flatMap_map, hvertex, hedge]
  simp

/-- A graph whose vertices and labels can be put in quotes is read back from its text as it was, vertices,
edges and labels in the same order, whatever blanks and newlines stand between the statements. -/
theorem graph_of_printed (g : Graph String String) (hvertices : ∀ v ∈ g.vertices, Quotable v.toList)
    (hlabels : ∀ e ∈ g.edges, Quotable e.2.2.toList) :
    (Document.ofText (print g)).map Document.graph = .ok g ∧
      ∀ gap, Gap gap → (Document.ofText (printed gap (operationsOf g))).map Document.graph = .ok g := by
  have hops : ∀ op ∈ operationsOf g, op.Printable := by
    intro op hop
    rcases List.mem_append.1 hop with hop | hop
    · obtain ⟨v, hv, rfl⟩ := List.mem_map.1 hop
      exact hvertices v hv
    · obtain ⟨⟨source, target, label⟩, he, rfl⟩ := List.mem_map.1 hop
      obtain ⟨hsource, htarget⟩ := g.mem_vertices_of_mem_edges he
      exact ⟨hvertices source hsource, hvertices target htarget, hlabels _ he⟩
  have hread : ∀ gap, Gap gap → (Document.ofText (printed gap (operationsOf g))).map Document.graph = .ok g := by
    intro gap hgap
    rw [ofText_printed hgap hops, Except.map, Document.graph_eq, Operation.operationsIn_statements,
      applyAll_operationsOf]
  refine ⟨?_, hread⟩
  rw [print_eq]
  exact hread [' '] (by simp [Gap, isBlank])

/-- Names and labels that look like statements, comments, directives and keywords, or are empty. -/
theorem graph_of_printed_lookalikes :
    let g : Graph String String := .build ["", "a\nb", "say \"hi\"", "digraph", "/* x"]
      [("c:\\temp", "", "\x7d // \"; a -> b"), ("\n# line", "é→😀", "label"), ("digraph", "digraph", "\n")]
    (∀ v ∈ g.vertices, Quotable v.toList) ∧ (∀ e ∈ g.edges, Quotable e.2.2.toList) ∧ Gap [' ', '\n', '\t'] ∧
      (Document.ofText (print g)).map Document.graph = .ok g ∧
      (Document.ofText (printed [' ', '\n', '\t'] (operationsOf g))).map Document.graph = .ok g := by
  intro g
  have hvertices : ∀ v ∈ g.vertices, Quotable v.toList := by decide +kernel
  have hlabels : ∀ e ∈ g.edges, Quotable e.2.2.toList := by decide +kernel
  have hgap : Gap [' ', '\n', '\t'] := by simp [Gap, isBlank]
  obtain ⟨hprint, hspaced⟩ := graph_of_printed g hvertices hlabels
  exact ⟨hvertices, hlabels, hgap, hprint, hspaced _ hgap⟩

end StateTraces.Dot
