import StateTraces.Graph

/-
A graph text as a tree of statements, and the graph that the tree stands for. Statements are
evaluated in order. Each declares vertices; a group declares what its statements declare. An edge
statement first evaluates its groups from left to right and then links every vertex of an endpoint
with every vertex of the next one.
-/

namespace StateTraces.Dot

mutual

/-- A statement. Default attributes and assignments are read and mean nothing. -/
inductive Statement where
  | defaults
  | assignment
  | vertex (name : String)
  | edges (first : Endpoint) (more : List Endpoint) (attributes : List (String × String))
  | group (body : List Statement)

/-- One end of an edge: a vertex, or a group that stands for the vertices it declares. -/
inductive Endpoint where
  | vertex (name : String)
  | group (body : List Statement)

end

instance : Inhabited Statement := ⟨.defaults⟩
instance : Inhabited Endpoint := ⟨.group []⟩

/-- A text that was read. -/
structure Document where
  name : Option String
  body : List Statement

/-! ## Evaluation -/

/-- The label of the edges of a statement: its first attribute of that name. -/
def label? (attributes : List (String × String)) : Option String :=
  Table.get? "label" attributes

/-- Links every source with every target, under the label or else under the target's name. -/
def linkAll (label : Option String) (sources targets : List String) (g : Graph String String) :
    Graph String String :=
  sources.foldl (fun g s => targets.foldl (fun g t => g.addEdge s t (label.getD t)) g) g

/-- Links every group of vertices with the next one. -/
def linkChain (label : Option String) : List (List String) → Graph String String →
    Graph String String
  | sources :: targets :: more, g =>
    linkChain label (targets :: more) (linkAll label sources targets g)
  | _, g => g

mutual

/-- Evaluates a statement: the graph after it and the vertices it declares. -/
def Statement.eval (g : Graph String String) : Statement → Graph String String × List String
  | .defaults => (g, [])
  | .assignment => (g, [])
  | .vertex name => (g.addVertex name, [name])
  | .group body =>
    let r := evalStatements g body
    (r.1, r.2.eraseDups)
  | .edges first more attributes =>
    let r := first.eval g
    let s := evalEndpoints r.1 more
    let groups := r.2 :: s.2
    (linkChain (label? attributes) groups s.1, groups.flatten.eraseDups)

/-- Evaluates an endpoint: the graph after it and the vertices it stands for. -/
def Endpoint.eval (g : Graph String String) : Endpoint → Graph String String × List String
  | .vertex name => (g, [name])
  | .group body =>
    let r := evalStatements g body
    (r.1, r.2.eraseDups)

/-- Evaluates statements in order: the graph after them and all that they declare. -/
def evalStatements (g : Graph String String) :
    List Statement → Graph String String × List String
  | [] => (g, [])
  | s :: rest =>
    let r := s.eval g
    let r' := evalStatements r.1 rest
    (r'.1, r.2 ++ r'.2)

/-- Evaluates endpoints in order: the graph after them and what each of them stands for. -/
def evalEndpoints (g : Graph String String) :
    List Endpoint → Graph String String × List (List String)
  | [] => (g, [])
  | e :: rest =>
    let r := e.eval g
    let r' := evalEndpoints r.1 rest
    (r'.1, r.2 :: r'.2)

end

/-- The graph that a document stands for. -/
def Document.graph (d : Document) : Graph String String := (evalStatements .empty d.body).1

end StateTraces.Dot
