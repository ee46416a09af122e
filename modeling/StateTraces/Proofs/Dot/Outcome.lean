import StateTraces.Dot.Reader

/-
Readers without the bounds that make them end: what is read and the tokens behind it, or a problem. Each
reader comes with one equation, in terms of the readers it calls and of the token at the front.
-/

namespace StateTraces.Dot

/-- A reader gives a value and the tokens behind it, or a problem. -/
abbrev Reader (α : Type) := List Token → Except Problem (α × List Token)

/-- What was read, without the bound on what is left. -/
def outcome {α : Type} {n : Nat} (r : Reads α n) : Except Problem (α × List Token) :=
  r.map fun a => (a.value, a.rest)

/-- Reads on behind what was read. -/
def andThen {α β : Type} (r : Except Problem (α × List Token)) (g : α → Reader β) :
    Except Problem (β × List Token) :=
  r >>= fun q => g q.1 q.2

section Outcomes

variable {α β : Type} {m n : Nat}

theorem outcome_bind {r : Reads α n} {f : Read α n → Reads β m} {g : α → Reader β}
    (h : ∀ a, outcome (f a) = g a.value a.rest) : outcome (r >>= f) = andThen (outcome r) g := by
  cases r with
  | error p => rfl
  | ok a => exact h a

/-- Reading something and giving it back. -/
theorem outcome_same {r : Reads α n} {shorter : ∀ a : Read α n, a.rest.length < m} :
    outcome (r >>= fun a => pure (⟨a.value, a.rest, shorter a⟩ : Read α m)) = outcome r := by
  cases r <;> rfl

theorem andThen_skip {r : Except Problem (α × List Token)} {g : α → Reader β} :
    andThen (andThen r fun v rest => .ok (v, skipSeparators rest)) g =
      andThen r fun v rest => g v (skipSeparators rest) := by
  cases r <;> rfl

end Outcomes

/-! ## Single tokens -/

section Equations

variable {ts : List Token}

theorem headIs_cons {p : Token → Bool} {t : Token} : headIs p (t :: ts) = p t := by simp [headIs]

theorem outcome_readMark (c : Char) (ts : List Token) : outcome (readMark c ts) =
    if headIs (·.isMark c) ts then .ok ((), ts.drop 1)
    else problem (.expectedMark c (ts.head?.map Token.value)) ts := by
  cases ts with
  | nil => rfl
  | cons t ts =>
    rw [readMark, headIs_cons]
    split <;> rfl

/-- Takes the next token, whatever it is. -/
def readNext : Reader Token
  | [] => problem .endOfText []
  | t :: ts => .ok (t, ts)

/-! ## Identifiers -/

/-- What is read behind a plus sign. -/
def readPiece (before : String) (next : Token) : Reader String := fun ts =>
  match next.lexeme with
  | .quoted s => outcome (readJoined (before ++ s) ts)
  | _ => .error ⟨.notQuoted, some next⟩

theorem outcome_readJoined (before : String) (ts : List Token) : outcome (readJoined before ts) =
    if headIs (·.isMark '+') ts then andThen (readNext (ts.drop 1)) (readPiece before) else .ok (before, ts) := by
  match ts with
  | [] => rfl
  | [t] =>
    rw [readJoined, headIs_cons]
    split <;> rfl
  | t :: next :: ts =>
    rw [readJoined, headIs_cons]
    split
    · show _ = readPiece before next ts
      unfold readPiece
      cases hnext : next.lexeme with
      | quoted s => exact outcome_same
      | _ => rfl
    · rfl

/-- What is read behind the first token of an identifier. -/
def readIdentifierTail (t : Token) : Reader String := fun ts =>
  match t.lexeme with
  | .quoted s => outcome (readJoined s ts)
  | _ => .ok (t.value, ts)

theorem outcome_readIdentifier (ts : List Token) : outcome (readIdentifier ts) =
    if headIs Token.isIdentifier ts then andThen (readNext ts) readIdentifierTail
    else problem (.expectedIdentifier (ts.head?.map Token.value)) ts := by
  cases ts with
  | nil => rfl
  | cons t ts =>
    rw [readIdentifier, headIs_cons]
    split
    · show _ = readIdentifierTail t ts
      unfold readIdentifierTail
      cases ht : t.lexeme with
      | quoted s => exact outcome_same
      | _ => rfl
    · rfl

/-! ## Vertices -/

theorem outcome_readAnchors (ts : List Token) : outcome (readAnchors ts) =
    if headIs (·.isMark ':') ts then
      andThen (outcome (readIdentifier (ts.drop 1))) fun _ rest => outcome (readAnchors rest)
    else .ok ((), ts) := by
  cases ts with
  | nil => rw [readAnchors]; rfl
  | cons t ts =>
    rw [readAnchors, headIs_cons]
    split
    · exact outcome_bind fun place => outcome_same
    · rfl

theorem outcome_readVertex (ts : List Token) : outcome (readVertex ts) =
    andThen (outcome (readIdentifier ts)) fun name rest =>
      andThen (outcome (readAnchors rest)) fun _ rest => .ok (name, rest) :=
  outcome_bind fun _ => outcome_bind fun _ => rfl

/-! ## Attributes -/

/-- What is read behind the key of an attribute. -/
def readValue (key : String) : Reader (String × String)
  | [] => .ok ((key, "true"), [])
  | t :: ts =>
    if t.isMark '=' then andThen (outcome (readIdentifier ts)) fun value rest => .ok ((key, value), rest)
    else .ok ((key, "true"), t :: ts)

theorem readValue_eq (key : String) (ts : List Token) : readValue key ts =
    if headIs (·.isMark '=') ts then
      andThen (outcome (readIdentifier (ts.drop 1))) fun value rest => .ok ((key, value), rest)
    else .ok ((key, "true"), ts) := by
  cases ts with
  | nil => rfl
  | cons t ts => rw [readValue, headIs_cons]; rfl

theorem outcome_readAttribute (ts : List Token) :
    outcome (readAttribute ts) = andThen (outcome (readIdentifier ts)) readValue := by
  rw [readAttribute]
  refine outcome_bind fun key => ?_
  obtain ⟨key, mid, hshort⟩ := key
  cases mid with
  | nil => rfl
  | cons t mid =>
    by_cases ht : t.isMark '=' = true
    · rw [readValue, if_pos ht]
      dsimp only
      rw [if_pos ht]
      exact outcome_bind fun value => rfl
    · rw [readValue, if_neg ht]
      dsimp only
      rw [if_neg ht]
      rfl

theorem outcome_readAttributes (ts : List Token) : outcome (readAttributes ts) =
    if headIs (·.isMark ']') ts then .ok ([], ts.drop 1)
    else andThen (outcome (readAttribute ts)) fun a rest =>
      andThen (outcome (readAttributes (skipSeparators rest))) fun more rest => .ok (a :: more, rest) := by
  rw [readAttributes]
  split
  · rfl
  · exact outcome_bind fun a => outcome_bind fun more => rfl

theorem outcome_readAttributeLists (ts : List Token) : outcome (readAttributeLists ts) =
    if headIs (·.isMark '[') ts then
      andThen (outcome (readAttributes (ts.drop 1))) fun one rest =>
        andThen (outcome (readAttributeLists rest)) fun more rest => .ok (one ++ more, rest)
    else .ok ([], ts) := by
  cases ts with
  | nil => rw [readAttributeLists]; rfl
  | cons t ts =>
    rw [readAttributeLists, headIs_cons]
    split
    · exact outcome_bind fun one => outcome_bind fun more => rfl
    · rfl

/-! ## Statements -/

theorem outcome_readName (ts : List Token) : outcome (readName ts) =
    if headIs Token.isIdentifier ts then
      andThen (outcome (readIdentifier ts)) fun name rest => .ok (some name, rest)
    else .ok (none, ts) := by
  rw [readName]
  split
  · exact outcome_bind fun name => rfl
  · rfl

theorem outcome_readGroupHead (ts : List Token) : outcome (readGroupHead ts) =
    if headIs (·.isKeyword "subgraph") ts then
      andThen (outcome (readName (ts.drop 1))) fun _ rest => outcome (readMark '\x7b' rest)
    else outcome (readMark '\x7b' ts) := by
  cases ts with
  | nil => rfl
  | cons t ts =>
    rw [readGroupHead, headIs_cons]
    split
    · exact outcome_bind fun name => outcome_same
    · rfl

theorem outcome_readGroup (ts : List Token) : outcome (readGroup ts) =
    andThen (outcome (readGroupHead ts)) fun _ rest => andThen (outcome (readStatements rest)) fun body rest =>
      andThen (outcome (readMark '\x7d' rest)) fun _ rest => .ok (body, rest) := by
  rw [readGroup]
  exact outcome_bind fun head => outcome_bind fun body => outcome_bind fun close => rfl

theorem outcome_readEndpoint (ts : List Token) : outcome (readEndpoint ts) =
    if headIs Token.opensGroup ts then andThen (outcome (readGroup ts)) fun body rest => .ok (.group body, rest)
    else andThen (outcome (readVertex ts)) fun name rest => .ok (.vertex name, rest) := by
  rw [readEndpoint]
  split
  · exact outcome_bind fun body => rfl
  · exact outcome_bind fun name => rfl

theorem outcome_readChain (ts : List Token) : outcome (readChain ts) =
    if headIs Token.isArrow ts then
      andThen (outcome (readEndpoint (ts.drop 1))) fun one rest =>
        andThen (outcome (readChain rest)) fun more rest => .ok (one :: more, rest)
    else .ok ([], ts) := by
  cases ts with
  | nil => rw [readChain]; rfl
  | cons t ts =>
    rw [readChain, headIs_cons]
    split
    · exact outcome_bind fun one => outcome_bind fun more => rfl
    · rfl

/-- The rest of an edge statement. -/
def readEdges (first : Endpoint) : Reader Statement := fun ts =>
  andThen (outcome (readChain ts)) fun more rest =>
    andThen (outcome (readAttributeLists rest)) fun as rest => .ok (.edges first more as, rest)

theorem outcome_readAfter_edges (first : Endpoint) (h : headIs Token.isArrow ts = true) :
    outcome (readAfter first ts) = readEdges first ts := by
  rw [readAfter.eq_def, if_pos h]
  exact outcome_bind fun chain => outcome_bind fun attributes => rfl

theorem outcome_readAfter_vertex (name : String) (ts : List Token) : outcome (readAfter (.vertex name) ts) =
    if headIs Token.isArrow ts then readEdges (.vertex name) ts
    else andThen (outcome (readAttributeLists ts)) fun _ rest => .ok (.vertex name, rest) := by
  split
  · rename_i h
    exact outcome_readAfter_edges _ h
  · rename_i h
    rw [readAfter, if_neg h]
    exact outcome_bind fun attributes => rfl

theorem outcome_readAfter_group (body : List Statement) (ts : List Token) : outcome (readAfter (.group body) ts) =
    if headIs Token.isArrow ts then readEdges (.group body) ts else .ok (.group body, ts) := by
  split
  · rename_i h
    exact outcome_readAfter_edges _ h
  · rename_i h
    rw [readAfter, if_neg h]
    rfl

/-- What is read behind the word that sets defaults. -/
def readDefaults : Reader Statement := fun ts =>
  if headIs (·.isMark '[') ts then andThen (outcome (readAttributeLists ts)) fun _ rest => .ok (.defaults, rest)
  else problem .expectedAttributes ts

theorem outcome_readStatement_nil : outcome (readStatement []) = problem .endOfText [] := by
  rw [readStatement]
  rfl

theorem outcome_readStatement_cons (t : Token) (ts : List Token) : outcome (readStatement (t :: ts)) =
    if t.isKeyword "graph" || t.isKeyword "node" || t.isKeyword "edge" then readDefaults ts
    else if t.opensGroup then
      andThen (outcome (readGroup (t :: ts))) fun body rest => outcome (readAfter (.group body) rest)
    else if t.isIdentifier then
      if headIs (·.isMark '=') ts then
        andThen (outcome (readIdentifier (ts.drop 1))) fun _ rest => .ok (.assignment, rest)
      else andThen (outcome (readVertex (t :: ts))) fun name rest => outcome (readAfter (.vertex name) rest)
    else problem (.strayToken t.value) (t :: ts) := by
  rw [readStatement]
  split
  · unfold readDefaults
    split
    · exact outcome_bind fun attributes => rfl
    · rfl
  split
  · exact outcome_bind fun body => outcome_same
  split
  · split
    · exact outcome_bind fun value => rfl
    · exact outcome_bind fun name => outcome_same
  · rfl

theorem outcome_readStatements (ts : List Token) : outcome (readStatements ts) =
    if ts.isEmpty || headIs (·.isMark '\x7d') ts then .ok ([], ts)
    else andThen (outcome (readStatement ts)) fun one rest =>
      andThen (outcome (readStatements (skipSeparators rest))) fun more rest => .ok (one :: more, rest) := by
  rw [readStatements]
  split
  · rfl
  · exact outcome_bind fun one => outcome_bind fun more => rfl

/-! ## Documents -/

/-- The word that a document starts with, behind `strict` or without it. -/
def readWord (ts : List Token) : Except Problem (Unit × List Token) :=
  if headIs (fun t => t.isKeyword "graph" || t.isKeyword "digraph") ts then .ok ((), ts.drop 1)
  else problem .expectedGraph ts

theorem readGraphWord_eq (ts : List Token) : (readGraphWord ts).map (fun rest => ((), rest)) =
    readWord (if headIs (·.isKeyword "strict") ts then ts.drop 1 else ts) := by
  unfold readGraphWord readWord
  generalize (if headIs (·.isKeyword "strict") ts then ts.drop 1 else ts) = us
  dsimp only
  split <;> rfl

/-- The end of a document. -/
def readEnd (d : Document) (ts : List Token) : Except Problem (Document × List Token) :=
  if ts.isEmpty then .ok (d, ts) else problem .textAfterGraph ts

theorem readEnd_eq (d : Document) (ts : List Token) :
    (if ts.isEmpty then (pure d : Except Problem Document) else problem .textAfterGraph ts).map (fun d => (d, [])) =
      readEnd d ts := by
  cases ts <;> rfl

theorem map_bind {α : Type} {n : Nat} {r : Reads α n} {f : Read α n → Except Problem Document} {g : α → Reader Document}
    (h : ∀ a, (f a).map (fun d => (d, [])) = g a.value a.rest) :
    (r >>= f).map (fun d => (d, [])) = andThen (outcome r) g := by
  cases r with
  | error p => rfl
  | ok a => exact h a

theorem map_bind_words {r : Except Problem (List Token)} {f : List Token → Except Problem Document}
    {g : Unit → Reader Document} (h : ∀ rest, (f rest).map (fun d => (d, [])) = g () rest) :
    (r >>= f).map (fun d => (d, [])) = andThen (r.map fun rest => ((), rest)) g := by
  cases r with
  | error p => rfl
  | ok rest => exact h rest

theorem readDocument_eq (ts : List Token) : (readDocument ts).map (fun d => (d, [])) =
    andThen ((readGraphWord ts).map fun rest => ((), rest)) fun _ rest =>
      andThen (outcome (readName rest)) fun name rest => andThen (outcome (readMark '\x7b' rest)) fun _ rest =>
        andThen (outcome (readStatements rest)) fun body rest => andThen (outcome (readMark '\x7d' rest)) fun _ rest =>
          readEnd ⟨name, body⟩ rest := by
  unfold readDocument
  exact map_bind_words fun rest => map_bind fun name => map_bind fun opening => map_bind fun body =>
    map_bind fun closing => readEnd_eq ⟨name.value, body.value⟩ closing.rest

end Equations

end StateTraces.Dot
