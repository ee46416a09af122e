import StateTraces.Dot.Reader

/-
Reading with a cursor. The tokens stay as they are and a position moves over them; what is read is told by the
token at the position, or by the one behind it. Loops go on as long as a token lets them, so nothing in here
says that they end: each round costs fuel, and so does each call of a reader of statements. A failure leaves
the position where it was noticed.
-/

namespace StateTraces.Dot

/-- A reader with a cursor: from a position, how it ends and at which position, or nothing if the fuel does not
last. -/
def Cursor (α : Type) : Type := Nat → Option (Except Problem α × Nat)

namespace Cursor

variable {α β : Type}

protected def pure (a : α) : Cursor α := fun i => some (.ok a, i)

protected def bind (c : Cursor α) (f : α → Cursor β) : Cursor β := fun i =>
  match c i with
  | some (.ok a, j) => f a j
  | some (.error p, j) => some (.error p, j)
  | none => none

instance : Monad Cursor where
  pure := Cursor.pure
  bind := Cursor.bind

/-- The fuel does not last. -/
def spent : Cursor α := fun _ => none

/-- Passes a token. -/
def skip : Cursor Unit := fun i => some (.ok (), i + 1)

variable (ts : List Token)

/-! ## Single tokens -/

/-- The token so many behind the position. -/
def peek (offset : Nat) : Cursor (Option Token) := fun i => some (.ok ts[i + offset]?, i)

/-- Whether the token at the position satisfies `p`. -/
def sees (p : Token → Bool) : Cursor Bool := return (← peek ts 0).any p

/-- Fails at a token, or at the one at the position. -/
def fail (complaint : Complaint) (token? : Option Token) : Cursor α := fun i =>
  some (.error ⟨complaint, token?.or ts[i]?⟩, i)

/-- Passes the token at the position. -/
def advance : Cursor Token := do
  match ← peek ts 0 with
  | none => fail ts .endOfText none
  | some t =>
    skip
    pure t

/-- Passes a mark if it is there. -/
def acceptMark (c : Char) : Cursor Bool := do
  if ← sees ts (·.isMark c) then
    skip
    pure true
  else pure false

def expectMark (c : Char) : Cursor Unit := do
  if ← acceptMark ts c then pure ()
  else fail ts (.expectedMark c ((← peek ts 0).map Token.value)) none

/-- Passes separators as long as there are any. -/
def separators : Nat → Cursor Unit
  | 0 => spent
  | fuel + 1 => do
    if ← acceptMark ts ';' then separators fuel
    else if ← acceptMark ts ',' then separators fuel
    else pure ()

/-! ## Identifiers -/

/-- Reads the quoted texts that are joined by plus signs. -/
def joined : Nat → String → Cursor String
  | 0, _ => spent
  | fuel + 1, before => do
    if ← sees ts (·.isMark '+') then
      skip
      let next ← advance ts
      match next.lexeme with
      | .quoted s => joined fuel (before ++ s)
      | _ => fail ts .notQuoted (some next)
    else pure before

def identifier (fuel : Nat) : Cursor String := do
  if ← sees ts Token.isIdentifier then
    let t ← advance ts
    match t.lexeme with
    | .quoted s => joined ts fuel s
    | _ => pure t.value
  else fail ts (.expectedIdentifier ((← peek ts 0).map Token.value)) none

/-- Reads the places behind colons. -/
def anchors : Nat → Cursor Unit
  | 0 => spent
  | fuel + 1 => do
    if ← acceptMark ts ':' then
      let _ ← identifier ts fuel
      anchors fuel
    else pure ()

def vertex (fuel : Nat) : Cursor String := do
  let name ← identifier ts fuel
  anchors ts fuel
  pure name

/-! ## Attributes -/

/-- Reads an attribute, with a value or without one. -/
def pair (fuel : Nat) : Cursor (String × String) := do
  let key ← identifier ts fuel
  if ← acceptMark ts '=' then
    let value ← identifier ts fuel
    pure (key, value)
  else pure (key, "true")

/-- Reads attributes up to the closing bracket. -/
def attributes : Nat → Cursor (List (String × String))
  | 0 => spent
  | fuel + 1 => do
    if ← acceptMark ts ']' then pure []
    else
      let a ← pair ts fuel
      separators ts fuel
      let more ← attributes fuel
      pure (a :: more)

/-- Reads bracketed attribute lists as long as there are any. -/
def lists : Nat → Cursor (List (String × String))
  | 0 => spent
  | fuel + 1 => do
    if ← acceptMark ts '[' then
      let one ← attributes ts fuel
      let more ← lists fuel
      pure (one ++ more)
    else pure []

/-- Reads attribute lists, of which there has to be one if it is required. -/
def attributeLists (fuel : Nat) (required : Bool) : Cursor (List (String × String)) := do
  if required && !(← sees ts (·.isMark '[')) then fail ts .expectedAttributes none
  else lists ts fuel

/-! ## Statements -/

/-- Reads an identifier if there is one. -/
def name? (fuel : Nat) : Cursor (Option String) := do
  if ← sees ts Token.isIdentifier then
    let name ← identifier ts fuel
    pure (some name)
  else pure none

/-- Reads the keyword of a group with its name, if they are there, and the opening brace. -/
def groupHead (fuel : Nat) : Cursor Unit := do
  if ← sees ts (·.isKeyword "subgraph") then
    skip
    let _ ← name? ts fuel
    expectMark ts '\x7b'
  else expectMark ts '\x7b'

mutual

def group : Nat → Cursor (List Statement)
  | 0 => spent
  | fuel + 1 => do
    groupHead ts fuel
    let body ← statements fuel
    expectMark ts '\x7d'
    pure body

def endpoint : Nat → Cursor Endpoint
  | 0 => spent
  | fuel + 1 => do
    if ← sees ts Token.opensGroup then
      let body ← group fuel
      pure (.group body)
    else
      let name ← vertex ts fuel
      pure (.vertex name)

/-- Reads arrows with their endpoints as long as there are any. -/
def chain : Nat → Cursor (List Endpoint)
  | 0 => spent
  | fuel + 1 => do
    if ← sees ts Token.isArrow then
      skip
      let one ← endpoint fuel
      let more ← chain fuel
      pure (one :: more)
    else pure []

/-- Reads the rest of an edge statement. -/
def edgeStatement : Nat → Endpoint → Cursor Statement
  | 0, _ => spent
  | fuel + 1, first => do
    let more ← chain fuel
    let attributes ← attributeLists ts fuel false
    pure (.edges first more attributes)

def statement : Nat → Cursor Statement
  | 0 => spent
  | fuel + 1 => do
    match ← peek ts 0 with
    | none => fail ts .endOfText none
    | some t =>
      if t.isKeyword "graph" || t.isKeyword "node" || t.isKeyword "edge" then
        skip
        let _ ← attributeLists ts fuel true
        pure .defaults
      else if t.opensGroup then
        let body ← group fuel
        if ← sees ts Token.isArrow then edgeStatement fuel (.group body)
        else pure (.group body)
      else if t.isIdentifier then
        if (← peek ts 1).any (·.isMark '=') then
          let _ ← identifier ts fuel
          skip
          let _ ← identifier ts fuel
          pure .assignment
        else
          let name ← vertex ts fuel
          if ← sees ts Token.isArrow then edgeStatement fuel (.vertex name)
          else
            let _ ← attributeLists ts fuel false
            pure (.vertex name)
      else fail ts (.strayToken t.value) (some t)

/-- Reads statements up to a closing brace or the end of the tokens. -/
def statements : Nat → Cursor (List Statement)
  | 0 => spent
  | fuel + 1 => do
    match ← peek ts 0 with
    | none => pure []
    | some t =>
      if t.isMark '\x7d' then pure []
      else
        let one ← statement fuel
        separators ts fuel
        let more ← statements fuel
        pure (one :: more)

end

/-! ## Documents -/

/-- Passes the word that may stand before the one that a document starts with. -/
def strict : Cursor Unit := do
  if ← sees ts (·.isKeyword "strict") then skip else pure ()

def graphWord : Cursor Unit := do
  if ← sees ts fun t => t.isKeyword "graph" || t.isKeyword "digraph" then skip
  else fail ts .expectedGraph none

/-- Reads a document, which takes all tokens. -/
def document (fuel : Nat) : Cursor Document := do
  strict ts
  graphWord ts
  let name ← name? ts fuel
  expectMark ts '\x7b'
  let body ← statements ts fuel
  expectMark ts '\x7d'
  if ← sees ts fun _ => true then fail ts .textAfterGraph none
  else pure ⟨name, body⟩

end Cursor

end StateTraces.Dot
