import StateTraces.Dot.Document
import StateTraces.Dot.Lexer
import StateTraces.Text.LowerCase

/-
Reading a document from its tokens by recursive descent. Every function takes the tokens that are
left and returns what it read and the tokens after it; that these are fewer is part of the type, so
the recursion ends. A problem names the token it was met at, or none at the end of the text. What is
read is a tree, which is evaluated afterwards; `fill` changes a graph on the way instead.
-/

namespace StateTraces.Dot

/-- What is wrong and the token where it was noticed; none stands for the end of the text. -/
structure Problem where
  complaint : Complaint
  token? : Option Token

/-- Something read, with fewer than `bound` tokens left. -/
structure Read (α : Type) (bound : Nat) where
  value : α
  rest : List Token
  shorter : rest.length < bound

/-- Something read with fewer than `bound` tokens left, or a problem. -/
abbrev Reads (α : Type) (bound : Nat) := Except Problem (Read α bound)

/-- A problem at the first of the tokens. -/
def problem {α : Type} (complaint : Complaint) (ts : List Token) : Except Problem α :=
  .error ⟨complaint, ts.head?⟩

/-! ## Single tokens -/

/-- The words that are no identifiers. -/
def keywords : List String := ["strict", "graph", "digraph", "node", "edge", "subgraph"]

namespace Token

/-- The word of the token in lower case, if it is a word. -/
def lowerWord? (t : Token) : Option String :=
  match t.lexeme with
  | .word w => some (Text.lower w)
  | _ => none

def isKeyword (t : Token) (keyword : String) : Bool := t.lowerWord? == some keyword

def isMark (t : Token) (c : Char) : Bool := t.lexeme == .mark c

def isArrow (t : Token) : Bool :=
  match t.lexeme with
  | .arrow _ => true
  | _ => false

/-- Words that are no keywords, numerals, quoted texts and angle texts. -/
def isIdentifier (t : Token) : Bool :=
  match t.lexeme with
  | .word w => !keywords.contains (Text.lower w)
  | .numeral _ | .quoted _ | .angle _ => true
  | .arrow _ | .mark _ => false

def isSeparator (t : Token) : Bool := t.isMark ';' || t.isMark ','

/-- Whether a group starts here. -/
def opensGroup (t : Token) : Bool := t.isKeyword "subgraph" || t.isMark '\x7b'

end Token

/-- Whether the first token satisfies `p`. -/
def headIs (p : Token → Bool) (ts : List Token) : Bool := ts.head?.any p

/-- The tokens without the separators at their front. -/
def skipSeparators (ts : List Token) : List Token := ts.dropWhile Token.isSeparator

theorem skipSeparators_length (ts : List Token) : (skipSeparators ts).length ≤ ts.length :=
  (List.dropWhile_suffix _).sublist.length_le

/-- Reads a mark. -/
def readMark (c : Char) : (ts : List Token) → Reads Unit ts.length
  | [] => problem (.expectedMark c none) []
  | t :: ts =>
    if t.isMark c then .ok ⟨(), ts, by simp⟩
    else problem (.expectedMark c (some t.value)) (t :: ts)

/-! ## Identifiers -/

/-- Reads the quoted texts that are joined to the one before by plus signs. -/
def readJoined (before : String) : (ts : List Token) → Reads String (ts.length + 1)
  | [] => .ok ⟨before, [], by simp⟩
  | [t] => if t.isMark '+' then problem .endOfText [] else .ok ⟨before, [t], by simp⟩
  | t :: next :: ts =>
    if t.isMark '+' then
      match next.lexeme with
      | .quoted s => do
        let r ← readJoined (before ++ s) ts
        pure ⟨r.value, r.rest, by have := r.shorter; simp only [List.length_cons]; omega⟩
      | _ => problem .notQuoted (next :: ts)
    else .ok ⟨before, t :: next :: ts, by simp⟩

/-- Reads an identifier; quoted texts may be joined. -/
def readIdentifier : (ts : List Token) → Reads String ts.length
  | [] => problem (.expectedIdentifier none) []
  | t :: ts =>
    if t.isIdentifier then
      match t.lexeme with
      | .quoted s => do
        let r ← readJoined s ts
        pure ⟨r.value, r.rest, by have := r.shorter; simp only [List.length_cons]; omega⟩
      | _ => .ok ⟨t.value, ts, by simp⟩
    else problem (.expectedIdentifier (some t.value)) (t :: ts)

/-- Reads the places behind colons where edges meet a vertex; they mean nothing. -/
def readAnchors (ts : List Token) : Reads Unit (ts.length + 1) :=
  match ts with
  | [] => .ok ⟨(), [], by simp⟩
  | t :: ts =>
    if t.isMark ':' then do
      let place ← readIdentifier ts
      have := place.shorter
      let r ← readAnchors place.rest
      pure ⟨(), r.rest, by have := r.shorter; simp only [List.length_cons]; omega⟩
    else .ok ⟨(), t :: ts, by simp⟩
termination_by ts.length

/-- Reads the name of a vertex and the places behind it. -/
def readVertex (ts : List Token) : Reads String ts.length := do
  let name ← readIdentifier ts
  let r ← readAnchors name.rest
  pure ⟨name.value, r.rest, by have := name.shorter; have := r.shorter; omega⟩

/-! ## Attributes -/

/-- Reads an attribute; one without a value has the value `true`. -/
def readAttribute (ts : List Token) : Reads (String × String) ts.length := do
  let key ← readIdentifier ts
  match h : key.rest with
  | t :: rest =>
    if t.isMark '=' then
      let value ← readIdentifier rest
      pure ⟨(key.value, value.value), value.rest, by
        have := key.shorter; have := value.shorter; rw [h, List.length_cons] at *; omega⟩
    else pure ⟨(key.value, "true"), key.rest, key.shorter⟩
  | [] => pure ⟨(key.value, "true"), key.rest, key.shorter⟩

/-- Reads attributes up to the closing bracket. -/
def readAttributes (ts : List Token) : Reads (List (String × String)) (ts.length + 1) :=
  if headIs (·.isMark ']') ts then
    .ok ⟨[], ts.drop 1, by simp only [List.length_drop]; omega⟩
  else do
    let a ← readAttribute ts
    have := a.shorter
    have := skipSeparators_length a.rest
    let r ← readAttributes (skipSeparators a.rest)
    pure ⟨a.value :: r.value, r.rest, by have := r.shorter; omega⟩
termination_by ts.length

/-- Reads any number of bracketed attribute lists as one. -/
def readAttributeLists (ts : List Token) : Reads (List (String × String)) (ts.length + 1) :=
  match ts with
  | [] => .ok ⟨[], [], by simp⟩
  | t :: ts =>
    if t.isMark '[' then do
      let one ← readAttributes ts
      have := one.shorter
      let more ← readAttributeLists one.rest
      pure ⟨one.value ++ more.value, more.rest, by
        have := more.shorter; simp only [List.length_cons]; omega⟩
    else .ok ⟨[], t :: ts, by simp⟩
termination_by ts.length

/-! ## Statements -/

/-- Reads an identifier if there is one. -/
def readName (ts : List Token) : Reads (Option String) (ts.length + 1) :=
  if headIs Token.isIdentifier ts then do
    let r ← readIdentifier ts
    pure ⟨some r.value, r.rest, Nat.lt_succ_of_lt r.shorter⟩
  else .ok ⟨none, ts, by simp⟩

/-- Reads the head of a group: the keyword with a name, if they are there, and the opening brace. -/
def readGroupHead : (ts : List Token) → Reads Unit ts.length
  | [] => readMark '\x7b' []
  | t :: ts =>
    if t.isKeyword "subgraph" then do
      let name ← readName ts
      let r ← readMark '\x7b' name.rest
      pure ⟨(), r.rest, by
        have := name.shorter; have := r.shorter; simp only [List.length_cons]; omega⟩
    else readMark '\x7b' (t :: ts)

mutual

/-- Reads a group in braces. -/
def readGroup (ts : List Token) : Reads (List Statement) ts.length := do
  let head ← readGroupHead ts
  have := head.shorter
  let body ← readStatements head.rest
  let close ← readMark '\x7d' body.rest
  pure ⟨body.value, close.rest, by have := body.shorter; have := close.shorter; omega⟩
termination_by (ts.length, 0)

/-- Reads the endpoint after an arrow. -/
def readEndpoint (ts : List Token) : Reads Endpoint ts.length :=
  if headIs Token.opensGroup ts then do
    let r ← readGroup ts
    pure ⟨.group r.value, r.rest, r.shorter⟩
  else do
    let r ← readVertex ts
    pure ⟨.vertex r.value, r.rest, r.shorter⟩
termination_by (ts.length, 1)

/-- Reads arrows, each with its endpoint. -/
def readChain (ts : List Token) : Reads (List Endpoint) (ts.length + 1) :=
  match ts with
  | [] => .ok ⟨[], [], by simp⟩
  | t :: ts =>
    if t.isArrow then do
      let one ← readEndpoint ts
      have := one.shorter
      let more ← readChain one.rest
      pure ⟨one.value :: more.value, more.rest, by
        have := more.shorter; simp only [List.length_cons]; omega⟩
    else .ok ⟨[], t :: ts, by simp⟩
termination_by (ts.length, 2)

/-- Reads what follows the first endpoint of a statement: the rest of an edge statement, or only
attribute lists if a vertex stands alone. -/
def readAfter (first : Endpoint) (ts : List Token) : Reads Statement (ts.length + 1) :=
  if headIs Token.isArrow ts then do
    let chain ← readChain ts
    let attributes ← readAttributeLists chain.rest
    pure ⟨.edges first chain.value attributes.value, attributes.rest, by
      have := chain.shorter; have := attributes.shorter; omega⟩
  else match first with
    | .group body => .ok ⟨.group body, ts, by simp⟩
    | .vertex name => do
      let attributes ← readAttributeLists ts
      pure ⟨.vertex name, attributes.rest, attributes.shorter⟩
termination_by (ts.length, 3)

/-- Reads a statement. -/
def readStatement (ts : List Token) : Reads Statement ts.length :=
  match ts with
  | [] => problem .endOfText []
  | t :: rest =>
    if t.isKeyword "graph" || t.isKeyword "node" || t.isKeyword "edge" then
      if headIs (·.isMark '[') rest then do
        let r ← readAttributeLists rest
        pure ⟨.defaults, r.rest, r.shorter⟩
      else problem .expectedAttributes rest
    else if t.opensGroup then do
      let g ← readGroup (t :: rest)
      have := g.shorter
      let r ← readAfter (.group g.value) g.rest
      pure ⟨r.value, r.rest, by have := r.shorter; omega⟩
    else if t.isIdentifier then
      if headIs (·.isMark '=') rest then do
        let r ← readIdentifier (rest.drop 1)
        pure ⟨.assignment, r.rest, by
          have := r.shorter; simp only [List.length_drop, List.length_cons] at *; omega⟩
      else do
        let name ← readVertex (t :: rest)
        have := name.shorter
        let r ← readAfter (.vertex name.value) name.rest
        pure ⟨r.value, r.rest, by have := r.shorter; omega⟩
    else problem (.strayToken t.value) (t :: rest)
termination_by (ts.length, 4)

/-- Reads statements up to a closing brace or the end of the text. -/
def readStatements (ts : List Token) : Reads (List Statement) (ts.length + 1) :=
  if ts.isEmpty || headIs (·.isMark '\x7d') ts then .ok ⟨[], ts, by simp⟩
  else do
    let one ← readStatement ts
    have := one.shorter
    have := skipSeparators_length one.rest
    let more ← readStatements (skipSeparators one.rest)
    pure ⟨one.value :: more.value, more.rest, by have := more.shorter; omega⟩
termination_by (ts.length, 5)

end

/-! ## Documents -/

/-- Reads the word that a document starts with. -/
def readGraphWord (ts : List Token) : Except Problem (List Token) :=
  let ts := if headIs (·.isKeyword "strict") ts then ts.drop 1 else ts
  if headIs (fun t => t.isKeyword "graph" || t.isKeyword "digraph") ts then .ok (ts.drop 1)
  else problem .expectedGraph ts

/-- Reads a document, which takes all tokens. -/
def readDocument (ts : List Token) : Except Problem Document := do
  let ts ← readGraphWord ts
  let name ← readName ts
  let head ← readMark '\x7b' name.rest
  let body ← readStatements head.rest
  let close ← readMark '\x7d' body.rest
  if close.rest.isEmpty then pure ⟨name.value, body.value⟩
  else problem .textAfterGraph close.rest

/-- The place of a problem among the tokens: of its token, or right after the last one. -/
def Problem.position (p : Problem) (ts : List Token) : Position :=
  match p.token?, ts.getLast? with
  | some t, _ => t.position
  | none, some last => last.stop
  | none, none => .start

/-- The document that tokens write. -/
def Document.ofTokens (ts : List Token) : Except Fault Document :=
  (readDocument ts).mapError fun p => ⟨p.complaint, p.position ts⟩

/-- The document that a text writes. -/
def Document.ofText (text : String) : Except Fault Document :=
  tokens text >>= Document.ofTokens

end StateTraces.Dot
