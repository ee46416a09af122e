import StateTraces.Yaml.Tag
import StateTraces.Yaml.Token

/-
The nodes of a YAML document, put together from tokens one at a time, with the unfinished
collections around the current place on a stack. Nodes have numbers; a reference is the number of an
earlier node, which may be a collection around it. Where no node stands, an empty plain scalar
stands for it.
-/

namespace StateTraces.Yaml

/-- What a node holds: a text, or the numbers of other nodes. -/
inductive Shape where
  | scalar (text : String)
  | sequence (items : List Nat)
  | mapping (rows : List (Nat × Nat))
  deriving Inhabited

structure Node where
  tag : Tag
  shape : Shape
  deriving Inhabited

/-- The nodes of a document by their numbers. -/
abbrev Graph := Array Node

/-! ## What has been read -/

/-- Something unfinished, with the number of its node and what it holds so far in reverse order. An
item, key or value of it is being read; a loose sequence is one that is not indented under its
key, and a pair is the only row of a mapping without braces. -/
inductive Frame where
  | item (self : Nat) (loose : Bool) (before : List Nat)
  | rowKey (self : Nat) (before : List (Nat × Nat))
  | rowValue (self : Nat) (before : List (Nat × Nat)) (key : Nat)
  | flowItem (self : Nat) (before : List Nat)
  | pairKey (self : Nat)
  | pairValue (self : Nat) (key : Nat)
  | flowKey (self : Nat) (before : List (Nat × Nat)) (stated : Bool)
  | flowValue (self : Nat) (before : List (Nat × Nat)) (key : Nat)

/-- What stands before a node: a name for it, a tag, or both, when the full name of the tag is
known. -/
inductive Properties where
  | anchor (name : String)
  | tag (name : TagName)
  | both (anchor tag : String)

/-- The directives before a document: whether there was a version, and the handles. -/
structure Prologue where
  versioned : Bool := false
  handles : Table String String := []

/-- What may come next, inside the given frames. -/
inductive Reading where
  | start
  | directives (prologue : Prologue)
  | opened (outer : List Frame)
  | due (outer : List Frame)
  | named (properties : Properties) (outer : List Frame)
  | entry (outer : List Frame)
  | complete (node : Nat) (outer : List Frame)
  | after (root : Nat)
  | directivesAfter (prologue : Prologue)
  | finished (root : Option Nat)

/-- The nodes so far, the numbers of those with names, and what handles stand for. -/
structure Composition where
  graph : Graph := #[]
  names : Table String Nat := []
  handles : Table String String := [("!", "!"), ("!!", "tag:yaml.org,2002:")]

abbrev Compose (α : Type) := StateT Composition (Except Fault) α

namespace Compose

/-- Adds a node, with a name that is not taken. -/
def add (anchor : Option String) (node : Node) : Compose Nat := do
  let c ← get
  if anchor.any fun name => (c.names.get? name).isSome then throw .reference
  let names := anchor.elim c.names fun name => c.names.set name c.graph.size
  set { c with graph := c.graph.push node, names }
  pure c.graph.size

def addEmpty : Compose Nat := add none ⟨.null, .scalar ""⟩

/-- A collection is finished. -/
def close (self : Nat) (shape : Shape) (outer : List Frame) : Compose Reading := do
  modify fun c => { c with graph := c.graph.modify self fun node => { node with shape } }
  pure (.complete self outer)

/-- The full name of a tag. -/
def tagName (name : TagName) : Compose String := do
  match name.handle with
  | none => pure name.name
  | some handle =>
    match (← get).handles.get? handle with
    | some start => pure (start ++ name.name)
    | none => throw .order

/-- The directives with another one. The version may be stated once, and has to be the first; so may
each handle. -/
def direct (p : Prologue) : Directive → Compose Prologue
  | .version major =>
    if p.versioned ∨ major ≠ 1 then throw .order else pure { p with versioned := true }
  | .handle handle start =>
    if (p.handles.get? handle).isSome then throw .order
    else pure { p with handles := p.handles.set handle start }
  | .other => pure p

end Compose

/-- The tag of a scalar with the full name of a tag; an exclamation mark alone asks for the tag that
its text implies. -/
def Tag.ofScalar (tag : Option String) (text : String) (isPlain : Bool) : Tag :=
  match tag with
  | none => if isPlain then .implied text else .text
  | some "!" => .implied text
  | some name => .ofName name

def Tag.ofCollection (tag : Option String) (usual : Tag) : Tag :=
  match tag with
  | none | some "!" => usual
  | some name => .ofName name

namespace Reading

open Compose

/-- Whether a block may start inside the innermost collection. -/
def inBlock : List Frame → Bool
  | [] | .item .. :: _ | .rowKey .. :: _ | .rowValue .. :: _ => true
  | _ => false

/-- Whether a loose sequence may start here: as a key or a value of a block mapping. -/
def inRow : List Frame → Bool
  | .rowKey .. :: _ | .rowValue .. :: _ => true
  | _ => false

/-- Whether the innermost collection has a place for a node that may stay empty. -/
def mayBeEmpty : List Frame → Bool
  | [] | .flowItem .. :: _ | .flowKey _ _ false :: _ => false
  | _ => true

/-- A token after the only document. Another document is one too many. -/
def afterRoot (root : Nat) : Token → Compose Reading
  | .documentEnd => pure (.after root)
  | .finish => pure (.finished (some root))
  | .directive d => return .directivesAfter (← direct {} d)
  | .documentStart => throw .reference
  | _ => throw .order

/-- A token after a complete row of a flow mapping. -/
def afterRow (self : Nat) (rows : List (Nat × Nat)) (outer : List Frame) : Token → Compose Reading
  | .comma => pure (.entry (.flowKey self rows false :: outer))
  | .closeBrace => close self (.mapping rows.reverse) outer
  | _ => throw .order

/-- A token after a complete node, by the innermost collection that the node belongs to. -/
def follow (n : Nat) : List Frame → Token → Compose Reading
  | [], t => afterRoot n t
  | .item self loose before :: outer, .dash =>
    pure (.due (.item self loose (n :: before) :: outer))
  | .item self loose before :: outer, t => do
    let r ← close self (.sequence (n :: before).reverse) outer
    if loose then follow self outer t else if t = .blockEnd then pure r else throw .order
  | .rowKey self before :: outer, .value => pure (.due (.rowValue self before n :: outer))
  | .rowKey self before :: outer, .key => do
    pure (.due (.rowKey self ((n, ← addEmpty) :: before) :: outer))
  | .rowKey self before :: outer, .blockEnd => do
    close self (.mapping ((n, ← addEmpty) :: before).reverse) outer
  | .rowValue self before key :: outer, .key =>
    pure (.due (.rowKey self ((key, n) :: before) :: outer))
  | .rowValue self before key :: outer, .blockEnd =>
    close self (.mapping ((key, n) :: before).reverse) outer
  | .flowItem self before :: outer, .comma =>
    pure (.entry (.flowItem self (n :: before) :: outer))
  | .flowItem self before :: outer, .closeBracket =>
    close self (.sequence (n :: before).reverse) outer
  | .pairKey self :: outer, .value => pure (.due (.pairValue self n :: outer))
  | .pairKey self :: outer, t => do
    let _ ← close self (.mapping [(n, ← addEmpty)]) outer
    follow self outer t
  | .pairValue self key :: outer, t => do
    let _ ← close self (.mapping [(key, n)]) outer
    follow self outer t
  | .flowKey self before true :: outer, .value =>
    pure (.due (.flowValue self before n :: outer))
  | .flowKey self before _ :: outer, t => do
    afterRow self ((n, ← addEmpty) :: before) outer t
  | .flowValue self before key :: outer, t => afterRow self ((key, n) :: before) outer t
  | _, _ => throw .order

/-- A token where the content of a node is due: it starts it, or the node is empty. -/
def content (anchor tag : Option String) (outer : List Frame) (t : Token) : Compose Reading := do
  let collection (usual : Tag) (shape : Shape) := add anchor ⟨.ofCollection tag usual, shape⟩
  let sequence := collection .list (.sequence [])
  let mapping := collection .table (.mapping [])
  match t, inBlock outer, inRow outer with
  | .scalar text isPlain, _, _ =>
    return .complete (← add anchor ⟨.ofScalar tag text isPlain, .scalar text⟩) outer
  | .openBracket, _, _ => return .entry (.flowItem (← sequence) [] :: outer)
  | .openBrace, _, _ => return .entry (.flowKey (← mapping) [] false :: outer)
  | .sequenceStart, true, _ => return .opened (.item (← sequence) false [] :: outer)
  | .mappingStart, true, _ => return .opened (.rowKey (← mapping) [] :: outer)
  | .dash, _, true => return .due (.item (← sequence) true [] :: outer)
  | t, _, _ =>
    if anchor.isSome ∨ tag.isSome ∨ mayBeEmpty outer then
      follow (← add anchor ⟨.ofScalar tag "" true, .scalar ""⟩) outer t
    else throw .order

/-- A token where a node is due. -/
def startNode (outer : List Frame) : Token → Compose Reading
  | .alias name => do
    match (← get).names.get? name with
    | some n => pure (.complete n outer)
    | none => throw .reference
  | .anchor name => pure (.named (.anchor name) outer)
  | .tag name => pure (.named (.tag name) outer)
  | t => content none none outer t

/-- A token after the name or the tag of a node. -/
def afterProperties (outer : List Frame) : Properties → Token → Compose Reading
  | .anchor name, .tag t => return .named (.both name (← tagName t)) outer
  | .anchor name, t => content (some name) none outer t
  | .tag name, t => do
    let tag ← tagName name
    match t with
    | .anchor anchor => pure (.named (.both anchor tag) outer)
    | t => content none (some tag) outer t
  | .both anchor tag, t => content (some anchor) (some tag) outer t

/-- A token where a document is due, after its directives. -/
def openDocument (p : Prologue) : Token → Compose Reading
  | .directive d => return .directives (← direct p d)
  | .documentStart => do
    modify fun c => { c with handles := c.handles.merge p.handles }
    pure (.opened [])
  | _ => throw .order

/-- One token further. -/
def step : Reading → Token → Compose Reading
  | _, .broken fault => throw fault
  | .start, .finish => pure (.finished none)
  | .start, .directive d => openDocument {} (.directive d)
  | .start, .documentStart => openDocument {} .documentStart
  | .start, t => startNode [] t
  | .directives p, t => openDocument p t
  | .opened [], t =>
    match t with
    | .directive _ | .documentStart | .documentEnd | .finish => do afterRoot (← addEmpty) t
    | t => startNode [] t
  | .opened (.item self loose before :: outer), .dash =>
    pure (.due (.item self loose before :: outer))
  | .opened (.rowKey self before :: outer), .key => pure (.due (.rowKey self before :: outer))
  | .due outer, t => startNode outer t
  | .named p outer, t => afterProperties outer p t
  | .entry (.flowItem self before :: outer), .key => do
    let pair ← add none ⟨.table, .mapping []⟩
    pure (.due (.pairKey pair :: .flowItem self before :: outer))
  | .entry (.flowItem self before :: outer), .closeBracket =>
    close self (.sequence before.reverse) outer
  | .entry (.flowKey self before _ :: outer), .key =>
    pure (.due (.flowKey self before true :: outer))
  | .entry (.flowKey self before _ :: outer), .closeBrace =>
    close self (.mapping before.reverse) outer
  | .entry outer, t => startNode outer t
  | .complete n outer, t => follow n outer t
  | .after root, t => afterRoot root t
  | .directivesAfter p, .directive d => return .directivesAfter (← direct p d)
  | .directivesAfter _, .documentStart => throw .reference
  | _, _ => throw .order

end Reading

/-- The nodes that tokens make up and the number of the root, if they hold a document. -/
def Graph.ofTokens (ts : List Token) : Except Fault (Graph × Option Nat) := do
  let (r, c) ← (ts.foldlM Reading.step .start).run {}
  match r with
  | .finished root => pure (c.graph, root)
  | _ => throw .order

end StateTraces.Yaml
