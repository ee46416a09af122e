import StateTraces.Yaml.Scalar
import StateTraces.Yaml.TagName

/-
The tokens of a YAML text. Indentation opens and closes blocks. A scalar may turn out to be a key
when a colon follows on its line: its place among the tokens is kept, and the token for the key is
put there when the colon comes.
-/

namespace StateTraces.Yaml

/-- A token. The last one says that the text has ended, or why it cannot be read further. -/
inductive Token where
  | directive (directive : Directive)
  | documentStart
  | documentEnd
  | sequenceStart
  | mappingStart
  | blockEnd
  | openBracket
  | closeBracket
  | openBrace
  | closeBrace
  | dash
  | comma
  | key
  | value
  | alias (name : String)
  | anchor (name : String)
  | tag (name : TagName)
  | scalar (text : String) (isPlain : Bool)
  | finish
  | broken (fault : Fault)
  deriving DecidableEq, Repr

/-! ## Places in a text -/

/-- A place in a text: what is left, the line, the column and the number of characters before. -/
structure Place where
  rest : List Char
  line : Nat := 0
  column : Nat := 0
  index : Nat := 0

namespace Place

/-- One character further; a byte order mark takes no column. -/
def step (p : Place) : Place :=
  match p.rest with
  | [] => p
  | c :: cs =>
    if isBreak c then { rest := cs, line := p.line + 1, column := 0, index := p.index + 1 }
    else { rest := cs, line := p.line, index := p.index + 1
           column := if c = '\ufeff' then p.column else p.column + 1 }

def forward (p : Place) : Nat → Place
  | 0 => p
  | n + 1 => p.step.forward n

/-- The place where only `rest` is left. -/
def upTo (p : Place) (rest : List Char) : Place := p.forward (p.rest.length - rest.length)

end Place

/-- Skips spaces, comments and line ends. Tells whether a line ended. -/
def skipGap (inComment crossed : Bool) : List Char → Bool × List Char
  | [] => (crossed, [])
  | c :: cs =>
    if isBreak c then skipGap false true cs
    else if inComment || c == '#' then skipGap true crossed cs
    else if c = ' ' then skipGap false crossed cs
    else (crossed, c :: cs)

/-! ## Reading tokens -/

/-- A token that may turn out to be a key: how many tokens stand before it, whether it has to be
one, and where it is. -/
structure Candidate where
  tokens : Nat
  required : Bool
  line : Nat
  column : Nat
  index : Nat

/-- How far a text has been read: the columns of the open blocks, from the inside out, and for
every open bracket, and the blocks around them, the candidate for a key. The first `settled` tokens
are fixed: no candidate stood among them when the last token was due. -/
structure Scan where
  place : Place
  columns : List Nat := []
  candidates : List (Option Candidate) := [none]
  keyAllowed : Bool := true
  tokens : List Token := []
  settled : Nat := 0

namespace Scan

def inFlow (s : Scan) : Bool := 1 < s.candidates.length

/-- The least column of what belongs to the innermost block. -/
def least (s : Scan) : Nat := s.columns.head?.elim 0 (· + 1)

def put (s : Scan) (t : Token) : Scan := { s with tokens := s.tokens ++ [t] }

/-- Puts a token where a candidate stands. -/
def insert (s : Scan) (before : Nat) (t : Token) : Scan :=
  { s with tokens := s.tokens.take before ++ t :: s.tokens.drop before }

/-- Closes the blocks to the right of a column. -/
def closeBlocks (column : Nat) (s : Scan) : Scan :=
  if s.inFlow then s else
    let inner := s.columns.takeWhile (column < ·)
    { s with columns := s.columns.drop inner.length
             tokens := s.tokens ++ List.replicate inner.length .blockEnd }

def closeAll (s : Scan) : Scan :=
  if s.inFlow then s
  else { s with columns := [], tokens := s.tokens ++ List.replicate s.columns.length .blockEnd }

/-- Whether a block at a column lies inside the innermost open one. -/
def isDeeper (s : Scan) (column : Nat) : Bool := s.columns.head?.all (· < column)

/-- Opens a block at a column, if it lies deeper than the open ones. -/
def openBlock (s : Scan) (column before : Nat) (t : Token) : Scan :=
  if !s.inFlow && s.isDeeper column then
    { s.insert before t with columns := column :: s.columns }
  else s

/-- Gives up the candidate of the innermost bracket, unless it has to be a key. -/
def dropCandidate (s : Scan) : Except Fault Scan :=
  match s.candidates with
  | some c :: outer =>
    if c.required then .error .token else .ok { s with candidates := none :: outer }
  | _ => .ok s

/-- Gives up the candidates that stand on an earlier line or too far back. -/
def dropStale (s : Scan) : Except Fault Scan := do
  let candidates ← s.candidates.mapM fun
    | none => pure none
    | some c =>
      if c.line = s.place.line ∧ s.place.index ≤ c.index + 1024 then pure (some c)
      else if c.required then throw .token
      else pure none
  pure { s with candidates }

/-- Makes what starts here a candidate, if a key may stand here. -/
def noteCandidate (s : Scan) : Except Fault Scan :=
  if s.keyAllowed then do
    let s ← s.dropCandidate
    let p := s.place
    let required := !s.inFlow && s.columns.head? == some p.column
    let here : Candidate :=
      { tokens := s.tokens.length, required, line := p.line, column := p.column, index := p.index }
    pure { s with candidates := some here :: s.candidates.drop 1 }
  else .ok s

/-- Takes a token of `n` characters. -/
def takeMark (s : Scan) (n : Nat) (t : Token) : Scan := { s.put t with place := s.place.forward n }

/-- Takes something that may be a key, up to where only `rest` is left. -/
def takeKeyLike (s : Scan) (read : Except Fault (Token × List Char)) : Except Fault Scan := do
  let s ← s.noteCandidate
  let (t, rest) ← read
  pure { s.put t with keyAllowed := false, place := s.place.upTo rest }

/-- Takes a plain scalar, after whose last line a key may follow. -/
def takePlain (s : Scan) : Except Fault Scan := do
  let s ← s.noteCandidate
  let r := plain s.inFlow s.least (.spaces []) s.place.column s.place.rest
  pure { s.put (.scalar (String.ofList r.text) true) with
    keyAllowed := r.crossed, place := s.place.upTo r.rest }

/-! ### Kinds of tokens -/

/-- A line that starts or ends a document. -/
def documentMark (s : Scan) : Except Fault Scan := do
  let s ← s.closeAll.dropCandidate
  let t : Token := if s.place.rest.head? == some '-' then .documentStart else .documentEnd
  pure { s.takeMark 3 t with keyAllowed := false }

/-- A line with a directive. -/
def directive (s : Scan) (cs : List Char) : Except Fault Scan := do
  let s ← s.closeAll.dropCandidate
  let (d, rest) ← readDirective cs
  pure { s.put (.directive d) with keyAllowed := false, place := s.place.upTo (rest.drop 1) }

def openFlow (s : Scan) (t : Token) : Except Fault Scan := do
  let s ← s.noteCandidate
  pure { s.takeMark 1 t with candidates := none :: s.candidates, keyAllowed := true }

def closeFlow (s : Scan) (t : Token) : Except Fault Scan := do
  let s ← s.dropCandidate
  let candidates := if s.inFlow then s.candidates.drop 1 else s.candidates
  pure { s.takeMark 1 t with candidates, keyAllowed := false }

def comma (s : Scan) : Except Fault Scan := do
  let s ← s.dropCandidate
  pure { s.takeMark 1 .comma with keyAllowed := true }

/-- A dash before an item, or a question mark before a key; in blocks they may stand only where a
key may. -/
def indicator (s : Scan) (block t : Token) (keyAfter : Bool) : Except Fault Scan := do
  if !s.inFlow && !s.keyAllowed then throw .token
  let s ← (s.openBlock s.place.column s.tokens.length block).dropCandidate
  pure { s.takeMark 1 t with keyAllowed := keyAfter }

/-- A colon before a value. It makes the candidate a key. -/
def colon (s : Scan) : Except Fault Scan :=
  match s.candidates with
  | some c :: outer =>
    let s := { s with candidates := none :: outer }
    let s := (s.insert c.tokens .key).openBlock c.column c.tokens .mappingStart
    .ok { s.takeMark 1 .value with keyAllowed := false }
  | _ => s.indicator .mappingStart .value (!s.inFlow)

/-- A name after an ampersand or a star. -/
def readName (make : String → Token) (cs : List Char) : Except Fault (Token × List Char) :=
  let name := (cs.drop 1).takeWhile isNameChar
  let rest := (cs.drop 1).drop name.length
  if name ≠ [] ∧ (atGap rest ∨ rest.head?.any "?:,]\x7d%@\x60".toList.contains) then
    .ok (make (String.ofList name), rest)
  else .error .token

/-- A scalar that is not plain. -/
def readScalar (r : Except Fault (List Char × List Char)) : Except Fault (Token × List Char) :=
  r.map fun r => (.scalar (String.ofList r.1) false, r.2)

/-- Takes the token at the front of a text that is not empty. -/
def token (s : Scan) (c : Char) (cs : List Char) : Except Fault Scan :=
  let mark := s.place.column = 0 && atDocumentMark (c :: cs)
  if s.place.column = 0 ∧ c = '%' then s.directive cs
  else if mark then s.documentMark
  else if c = '[' then s.openFlow .openBracket
  else if c = '\x7b' then s.openFlow .openBrace
  else if c = ']' then s.closeFlow .closeBracket
  else if c = '\x7d' then s.closeFlow .closeBrace
  else if c = ',' then s.comma
  else if c = '-' ∧ atGap cs then s.indicator .sequenceStart .dash true
  else if c = '?' ∧ (s.inFlow ∨ atGap cs) then s.indicator .mappingStart .key (!s.inFlow)
  else if c = ':' ∧ (s.inFlow ∨ atGap cs) then s.colon
  else if c = '*' then s.takeKeyLike (readName .alias (c :: cs))
  else if c = '&' then s.takeKeyLike (readName .anchor (c :: cs))
  else if c = '!' then
    s.takeKeyLike ((TagName.read cs).map fun r => (.tag r.1, r.2))
  else if (c = '|' ∨ c = '>') ∧ !s.inFlow then do
    let s ← s.dropCandidate
    let (t, rest) ← readScalar (blockScalar s.least (c :: cs))
    pure { s.put t with keyAllowed := true, place := s.place.upTo rest }
  else if c = '\'' then s.takeKeyLike (readScalar (singleQuoted (.spaces []) cs))
  else if c = '"' then s.takeKeyLike (readScalar (doubleQuoted (.text (.spaces [])) cs))
  else if startsPlain s.inFlow (c :: cs) then s.takePlain
  else .error .token

/-- Takes the next token: after the gap before it, blocks to the right of it are closed. -/
def next (s : Scan) : Except Fault Scan := do
  let (crossed, rest) := skipGap false false s.place.rest
  let s := { s with place := s.place.upTo rest
                    keyAllowed := s.keyAllowed || (crossed && !s.inFlow) }
  let s ← s.dropStale
  match s.place.rest with
  | [] => pure ((← s.closeAll.dropCandidate).put .finish)
  | c :: cs => (s.closeBlocks s.place.column).token c cs

/-- Fixes the tokens that no candidate keeps open. -/
def settle (s : Scan) : Scan :=
  let least (n : Nat) (c : Option Candidate) := c.elim n fun c => min n c.tokens
  { s with settled := s.candidates.foldl least s.tokens.length }

/-- The tokens that are fixed, and why no more can be read. -/
def stop (s : Scan) (fault : Fault) : List Token := s.tokens.take s.settled ++ [.broken fault]

/-- All tokens from here on; every one but the last takes some text. -/
def all (s : Scan) : List Token :=
  match s.dropStale.map settle with
  | .error fault => s.stop fault
  | .ok s₁ =>
    match s₁.next with
    | .error fault => s₁.stop fault
    | .ok s₂ =>
      if s₂.place.rest.length < s.place.rest.length then
        if s₂.tokens.getLast? = some .finish then s₂.tokens else all s₂
      else s₂.tokens
termination_by s.place.rest.length

end Scan

/-- The tokens of a text; a byte order mark in front does not count. -/
def tokens (text : String) : List Token :=
  let cs := text.toList
  let rest := if cs.head? = some '\ufeff' then cs.drop 1 else cs
  ({ place := { rest } } : Scan).all

end StateTraces.Yaml
