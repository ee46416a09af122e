import StateTraces.Dot.Cursor

/-
Reading that fills a graph on the way. A cursor moves as it does for documents, but no tree is kept: a
statement changes the graph when it is read, and tells the vertices that it declares. When reading fails,
nobody looks at the graph.
-/

namespace StateTraces.Dot

/-- A reader with a cursor and a graph. -/
abbrev Filling (α : Type) : Type := StateT (Graph String String) Cursor α

namespace Filling

variable (ts : List Token)

/-- The names that were declared, and those of more vertices that are not among them. -/
def declare (declared vertices : List String) : List String :=
  vertices.foldl (fun names v => if v ∈ names then names else names ++ [v]) declared

mutual

def group : Nat → Filling (List String)
  | 0 => Cursor.spent
  | fuel + 1 => do
    Cursor.groupHead ts fuel
    let vertices ← statements fuel []
    Cursor.expectMark ts '\x7d'
    pure vertices

/-- Reads an endpoint; a vertex is not added yet. -/
def endpoint : Nat → Filling (List String)
  | 0 => Cursor.spent
  | fuel + 1 => do
    if ← Cursor.sees ts Token.opensGroup then group fuel
    else
      let name ← Cursor.vertex ts fuel
      pure [name]

/-- Reads arrows with their endpoints as long as there are any. -/
def chain : Nat → Filling (List (List String))
  | 0 => Cursor.spent
  | fuel + 1 => do
    if ← Cursor.sees ts Token.isArrow then
      Cursor.skip
      let one ← endpoint fuel
      let more ← chain fuel
      pure (one :: more)
    else pure []

/-- Reads the rest of an edge statement, and then adds its edges. -/
def edgeStatement : Nat → List String → Filling (List String)
  | 0, _ => Cursor.spent
  | fuel + 1, first => do
    let more ← chain fuel
    let attributes ← Cursor.attributeLists ts fuel false
    modify (linkChain (label? attributes) (first :: more))
    pure ((first :: more).foldl declare [])

def statement : Nat → Filling (List String)
  | 0 => Cursor.spent
  | fuel + 1 => do
    match ← Cursor.peek ts 0 with
    | none => Cursor.fail ts .endOfText none
    | some t =>
      if t.isKeyword "graph" || t.isKeyword "node" || t.isKeyword "edge" then
        Cursor.skip
        let _ ← Cursor.attributeLists ts fuel true
        pure []
      else if t.opensGroup then
        let vertices ← group fuel
        if ← Cursor.sees ts Token.isArrow then edgeStatement fuel vertices
        else pure vertices
      else if t.isIdentifier then
        if (← Cursor.peek ts 1).any (·.isMark '=') then
          let _ ← Cursor.identifier ts fuel
          Cursor.skip
          let _ ← Cursor.identifier ts fuel
          pure []
        else
          let name ← Cursor.vertex ts fuel
          if ← Cursor.sees ts Token.isArrow then edgeStatement fuel [name]
          else
            let _ ← Cursor.attributeLists ts fuel false
            modify (·.addVertex name)
            pure [name]
      else Cursor.fail ts (.strayToken t.value) (some t)

/-- Reads statements up to a closing brace or the end of the tokens, after some that declare these
names. -/
def statements : Nat → List String → Filling (List String)
  | 0, _ => Cursor.spent
  | fuel + 1, declared => do
    match ← Cursor.peek ts 0 with
    | none => pure declared
    | some t =>
      if t.isMark '\x7d' then pure declared
      else
        let vertices ← statement fuel
        Cursor.separators ts fuel
        statements fuel (declare declared vertices)

end

/-- Reads a text, which takes all tokens. -/
def document (fuel : Nat) : Filling Unit := do
  Cursor.strict ts
  Cursor.graphWord ts
  let _ ← Cursor.name? ts fuel
  Cursor.expectMark ts '\x7b'
  let _ ← statements ts fuel []
  Cursor.expectMark ts '\x7d'
  if ← Cursor.sees ts fun _ => true then Cursor.fail ts .textAfterGraph none

end Filling

/-- The graph that is filled from the tokens. -/
def fill (ts : List Token) (fuel : Nat) : Cursor (Graph String String) :=
  Prod.snd <$> (Filling.document ts fuel).run .empty

end StateTraces.Dot
