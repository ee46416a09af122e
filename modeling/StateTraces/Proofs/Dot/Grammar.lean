import StateTraces.Dot.Reader

/-
The grammar of the graph language, without any reader: which tokens write an identifier, a vertex,
attributes, a statement or a document, and what they stand for. Every rule lists its tokens from the
first to the last one. Keywords are words in any letter case; quoted texts are never keywords.
-/

namespace StateTraces.Dot

namespace Token

def Mark (c : Char) (t : Token) : Prop := t.lexeme = .mark c

def Arrow (t : Token) : Prop := ∃ directed, t.lexeme = .arrow directed

def Keyword (keyword : String) (t : Token) : Prop := ∃ w, t.lexeme = .word w ∧ Text.lower w = keyword

def Separator (t : Token) : Prop := t.Mark ';' ∨ t.Mark ','

end Token

namespace Grammar

/-! ## Identifiers and vertices -/

/-- Quoted texts that are joined to the one before, each behind a plus sign. -/
inductive Joined : String → List Token → Prop
  | nil : Joined "" []
  | cons {plus t : Token} {s text : String} {ts : List Token} (hplus : plus.Mark '+') (ht : t.lexeme = .quoted s)
      (hmore : Joined text ts) : Joined (s ++ text) (plus :: t :: ts)

/-- An identifier: one token, or quoted texts joined by plus signs. -/
inductive Identifier : String → List Token → Prop
  | word {t : Token} {w : String} (ht : t.lexeme = .word w) (hw : Text.lower w ∉ keywords) : Identifier w [t]
  | numeral {t : Token} {digits : String} (ht : t.lexeme = .numeral digits) : Identifier digits [t]
  | angle {t : Token} {s : String} (ht : t.lexeme = .angle s) : Identifier s [t]
  | quoted {t : Token} {s text : String} {ts : List Token} (ht : t.lexeme = .quoted s)
      (hmore : Joined text ts) : Identifier (s ++ text) (t :: ts)

/-- An identifier that may be missing. -/
inductive Name : Option String → List Token → Prop
  | none : Name none []
  | some {name : String} {ts : List Token} (h : Identifier name ts) : Name (some name) ts

/-- Places behind colons. -/
inductive Anchors : List Token → Prop
  | nil : Anchors []
  | cons {colon : Token} {place : String} {ps ts : List Token} (hcolon : colon.Mark ':')
      (hplace : Identifier place ps) (hmore : Anchors ts) : Anchors (colon :: (ps ++ ts))

/-- A vertex: its name and the places where edges meet it. -/
inductive Vertex : String → List Token → Prop
  | mk {name : String} {ns ps : List Token} (hname : Identifier name ns) (hplaces : Anchors ps) :
      Vertex name (ns ++ ps)

/-! ## Attributes -/

/-- An attribute; one without a value has the value `true`. -/
inductive Attribute : String × String → List Token → Prop
  | flag {key : String} {ks : List Token} (hkey : Identifier key ks) : Attribute (key, "true") ks
  | pair {key value : String} {ks vs : List Token} {eq : Token} (hkey : Identifier key ks) (heq : eq.Mark '=')
      (hvalue : Identifier value vs) : Attribute (key, value) (ks ++ eq :: vs)

/-- Attributes, each with any number of separators behind it. -/
inductive Attributes : List (String × String) → List Token → Prop
  | nil : Attributes [] []
  | cons {a : String × String} {more : List (String × String)} {as seps ts : List Token} (ha : Attribute a as)
      (hseps : ∀ t ∈ seps, t.Separator) (hmore : Attributes more ts) : Attributes (a :: more) (as ++ seps ++ ts)

/-- Lists of attributes in brackets, as one list. -/
inductive AttributeLists : List (String × String) → List Token → Prop
  | nil : AttributeLists [] []
  | cons {one more : List (String × String)} {opening closing : Token} {inner ts : List Token}
      (hopen : opening.Mark '[') (hone : Attributes one inner) (hclose : closing.Mark ']')
      (hmore : AttributeLists more ts) : AttributeLists (one ++ more) (opening :: inner ++ closing :: ts)

/-! ## Statements -/

/-- What may stand before the opening brace of a group. -/
inductive GroupHead : List Token → Prop
  | bare : GroupHead []
  | named {keyword : Token} {name : Option String} {ns : List Token} (hkeyword : keyword.Keyword "subgraph")
      (hname : Name name ns) : GroupHead (keyword :: ns)

mutual

/-- Statements, each with any number of separators behind it. -/
inductive Statements : List Dot.Statement → List Token → Prop
  | nil : Statements [] []
  | cons {s : Dot.Statement} {more : List Dot.Statement} {ss seps ts : List Token} (hs : Statement s ss)
      (hseps : ∀ t ∈ seps, t.Separator) (hmore : Statements more ts) : Statements (s :: more) (ss ++ seps ++ ts)

/-- A statement: default attributes, an assignment to a one-token identifier, a vertex with
attributes, edges with attributes, or a group. -/
inductive Statement : Dot.Statement → List Token → Prop
  | defaults {keyword : Token} {attributes : List (String × String)} {ts : List Token}
      (hkeyword : keyword.Keyword "graph" ∨ keyword.Keyword "node" ∨ keyword.Keyword "edge")
      (hattributes : AttributeLists attributes ts) (hne : ts ≠ []) : Statement .defaults (keyword :: ts)
  | assignment {t eq : Token} {key value : String} {vs : List Token} (hkey : Identifier key [t])
      (heq : eq.Mark '=') (hvalue : Identifier value vs) : Statement .assignment (t :: eq :: vs)
  | vertex {name : String} {attributes : List (String × String)} {vs ts : List Token} (hname : Vertex name vs)
      (hattributes : AttributeLists attributes ts) : Statement (.vertex name) (vs ++ ts)
  | edges {first : Dot.Endpoint} {more : List Dot.Endpoint} {attributes : List (String × String)}
      {fs ms ts : List Token} (hfirst : Endpoint first fs) (hmore : Chain more ms) (hne : more ≠ [])
      (hattributes : AttributeLists attributes ts) :
      Statement (.edges first more attributes) (fs ++ ms ++ ts)
  | group {body : List Dot.Statement} {ts : List Token} (hbody : Block body ts) : Statement (.group body) ts

/-- One end of an edge. -/
inductive Endpoint : Dot.Endpoint → List Token → Prop
  | vertex {name : String} {ts : List Token} (hname : Vertex name ts) : Endpoint (.vertex name) ts
  | group {body : List Dot.Statement} {ts : List Token} (hbody : Block body ts) : Endpoint (.group body) ts

/-- Arrows, each with an end of an edge behind it. -/
inductive Chain : List Dot.Endpoint → List Token → Prop
  | nil : Chain [] []
  | cons {arrow : Token} {e : Dot.Endpoint} {more : List Dot.Endpoint} {es ts : List Token}
      (harrow : arrow.Arrow) (he : Endpoint e es) (hmore : Chain more ts) :
      Chain (e :: more) (arrow :: es ++ ts)

/-- A group: its head and statements in braces. -/
inductive Block : List Dot.Statement → List Token → Prop
  | mk {body : List Dot.Statement} {opening closing : Token} {hs bs : List Token} (hhead : GroupHead hs)
      (hopen : opening.Mark '\x7b') (hbody : Statements body bs) (hclose : closing.Mark '\x7d') :
      Block body (hs ++ opening :: bs ++ [closing])

end

/-! ## Documents -/

/-- The words that a document starts with. -/
inductive Opening : List Token → Prop
  | plain {graph : Token} (hgraph : graph.Keyword "graph" ∨ graph.Keyword "digraph") : Opening [graph]
  | strict {strict graph : Token} (hstrict : strict.Keyword "strict")
      (hgraph : graph.Keyword "graph" ∨ graph.Keyword "digraph") : Opening [strict, graph]

/-- A document: its words, its name and its statements in braces. -/
inductive Document : Dot.Document → List Token → Prop
  | mk {name : Option String} {body : List Dot.Statement} {opening closing : Token} {os ns bs : List Token}
      (hopening : Opening os) (hname : Name name ns) (hopen : opening.Mark '\x7b') (hbody : Statements body bs)
      (hclose : closing.Mark '\x7d') : Document ⟨name, body⟩ (os ++ ns ++ opening :: bs ++ [closing])

end Grammar

end StateTraces.Dot
