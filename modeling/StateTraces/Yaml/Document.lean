import StateTraces.Yaml.Constant
import StateTraces.Yaml.Graph

/-
What a YAML document means. Scalars are looked at from the outside in: those of one collection come
before those inside the collections it holds, so that of several faults the outermost counts. Of two
rows with one key the later one counts, and a row that merges tables counts before all rows of its
own table.
-/

namespace StateTraces.Yaml

namespace Graph

def tag (g : Graph) (n : Nat) : Tag := (g[n]?.map Node.tag).getD .unknown

def shape (g : Graph) (n : Nat) : Shape := (g[n]?.map Node.shape).getD (.sequence [])

/-- The text of a node; that of a mapping is the text of its default value. -/
def text (g : Graph) : Nat → Nat → Except Fault String
  | 0, _ => .error .circle
  | fuel + 1, n =>
    match g.shape n with
    | .scalar s => .ok s
    | .sequence _ => .error .meaning
    | .mapping rows =>
      match rows.find? fun r => g.tag r.1 = .default with
      | some r => text g fuel r.2
      | none => .error .meaning

/-- The value of a node with the tag of a scalar. A date has to be a scalar itself. -/
def scalarValue (g : Graph) (n : Nat) : Except Fault Value := do
  if [Tag.merge, .default, .unknown].contains (g.tag n) then throw .meaning
  let s ← g.text (g.size + 1) n
  match g.tag n, g.shape n with
  | .timestamp, .mapping _ => throw .dateParts
  | tag, _ => tag.scalarValue s

/-- The graph in which a node is a key: the mark of a default value is a text there. -/
def asKey (g : Graph) (n : Nat) : Graph :=
  if g.tag n = .default then g.modify n fun node => { node with tag := .text } else g

/-! ## Rows -/

/-- The rows of a mapping: first those of the mappings that it merges, of several the last one
first, then its own. A mapping that is merged into itself, so that it is among `outer`, adds its own
rows only. -/
def rows (g : Graph) : Nat → List Nat → Nat → Except Fault (List (Nat × Nat))
  | 0, _, _ => .error .circle
  | fuel + 1, outer, n =>
    match g.shape n with
    | .mapping all => do
      let own := all.filter fun r => g.tag r.1 != .merge
      if outer.contains n then pure own
      else do
        let merged ← (all.filter fun r => g.tag r.1 == .merge).mapM fun r => do
          match g.shape r.2 with
          | .mapping _ => rows g fuel (n :: outer) r.2
          | .sequence items => do
            let parts ← items.mapM (rows g fuel (n :: outer))
            pure parts.reverse.flatten
          | .scalar _ => throw .meaning
        pure (merged.flatten ++ own)
    | _ => .error .meaning

/-- The rows of a node that has to be a mapping. -/
def tableRows (g : Graph) (n : Nat) : Except Fault (List (Nat × Nat)) := g.rows (g.size + 2) [] n

/-- The rows of the mappings in a sequence. -/
def listedRows (g : Graph) (items : List Nat) : List (Nat × Nat) :=
  items.flatMap fun m =>
    match g.shape m with
    | .mapping rows => rows
    | _ => []

end Graph

/-- Whether a tag is that of a collection: it is filled after all that stands beside it, and it
cannot be a key. -/
def Tag.isCollection (tag : Tag) : Bool := [Tag.list, .table, .set, .pairs].contains tag

/-! ## Faults -/

/-- The nodes that were looked at, and the collections among them that are not filled yet. -/
structure Visits where
  seen : Array Bool
  due : List Nat := []

abbrev Visiting := StateT Visits (Except Fault)

namespace Graph

/-- Looks at a node, unless that was done before: a scalar has to mean something, and a collection
will be filled later. -/
def visit (g : Graph) (n : Nat) : Visiting Unit := do
  let v ← get
  if v.seen[n]? = some true then pure ()
  else
    let seen := v.seen.setIfInBounds n true
    if (g.tag n).isCollection then set { seen, due := v.due ++ [n] : Visits }
    else
      let _ ← g.scalarValue n
      set { v with seen }

/-- Looks at a row of a table. -/
def visitRow (g : Graph) (r : Nat × Nat) : Visiting Unit := do
  (g.asKey r.1).visit r.1
  if (g.tag r.1).isCollection then throw .meaning
  g.visit r.2

/-- Looks at what a collection holds, which has to fit its tag. -/
def fill (g : Graph) (n : Nat) : Visiting Unit := do
  match g.tag n, g.shape n with
  | .list, .sequence items => items.forM g.visit
  | .pairs, .sequence items => items.forM fun m => do
    match g.shape m with
    | .mapping [r] => do
      g.visit r.1
      g.visit r.2
    | _ => throw .meaning
  | .list, _ | .pairs, _ => throw .meaning
  | _, _ => (← g.tableRows n).forM g.visitRow

/-- Fills the collections in the order in which they were seen. -/
def fillAll (g : Graph) : Nat → Visiting Unit
  | 0 => pure ()
  | fuel + 1 => do
    let v ← get
    match v.due with
    | [] => pure ()
    | n :: due => do
      set { v with due }
      g.fill n
      fillAll g fuel

/-- Checks that every node means something. -/
def check (g : Graph) (root : Nat) : Except Fault Unit := do
  let start : Visits := { seen := Array.replicate g.size false }
  let _ ← (g.visit root *> g.fillAll (g.size + 1)).run start
  pure ()

end Graph

/-! ## Values -/

/-- Sets a row: in place if its key is there, else as a new last row. -/
def setRow (key value : Value) : List (Value × Value) → List (Value × Value)
  | [] => [(key, value)]
  | (k, v) :: rows =>
    if k.isSameKey key then (k, value) :: rows else (k, v) :: setRow key value rows

def tableOf (rows : List (Value × Value)) : List (Value × Value) :=
  rows.foldl (fun t r => setRow r.1 r.2 t) []

/-- The keys as a set; integers are put in ascending order. -/
def setOf (keys : List Value) : Value :=
  let items := (tableOf (keys.map fun k => (k, .null))).map Prod.fst
  let number? : Value → Option Int
    | .int n => some n
    | _ => none
  match items.mapM number? with
  | some ns => .set ((ns.mergeSort fun a b => decide (a ≤ b)).map .int)
  | none => .set items

/-- The values of collections that hold nothing unfinished. -/
abbrev Known := Array (Option Value)

abbrev Meaning := StateT Known (Except Fault)

namespace Graph

/-- A collection with its parts, and whether all of them are closed. It is known from then on. -/
def finish {α : Type} (n : Nat) (make : List α → Value) (parts : List (α × Bool)) :
    Meaning (Value × Bool) := do
  let v := make (parts.map Prod.fst)
  let closed := parts.all Prod.snd
  if closed then modify (·.setIfInBounds n (some v))
  pure (v, closed)

/-- The value of a checked node inside the collections `outer`, each of which may stand inside
itself, and whether it is closed: none of these stands in it. A mark of default values that passed
the check is a key, and so a text. -/
def value (g : Graph) : Nat → List Nat → Nat → Meaning (Value × Bool)
  | 0, _, _ => throw .circle
  | fuel + 1, outer, n => do
    let inner := value g fuel (n :: outer)
    let row (r : Nat × Nat) : Meaning ((Value × Value) × Bool) := do
      let (k, kClosed) ← inner r.1
      let (v, vClosed) ← inner r.2
      pure ((k, v), kClosed && vClosed)
    if outer.contains n then pure (.again (g.tag n == .table), false)
    else match (← get)[n]?.join with
      | some v => pure (v, true)
      | none =>
        match g.tag n, g.shape n with
        | .list, .sequence items => finish n .list (← items.mapM inner)
        | .pairs, .sequence items =>
          finish n (fun rs => .list (rs.map fun r => .pair r.1 r.2))
            (← (g.listedRows items).mapM row)
        | .table, _ => finish n (fun rs => .table (tableOf rs)) (← (← g.tableRows n).mapM row)
        | .set, _ => finish n setOf (← ((← g.tableRows n).map Prod.fst).mapM inner)
        | _, _ => return (← (g.asKey n).scalarValue n, true)

/-- The value of a document. Each row of a table is looked at by itself. -/
def rootValue (g : Graph) (root : Nat) : Meaning Value := do
  let part (n : Nat) : Meaning Value := return (← g.value (g.size + 1) [] n).1
  match g.tag root with
  | .table => do
    let rows ← (← g.tableRows root).mapM fun r => return (← part r.1, ← part r.2)
    pure (.table (tableOf rows))
  | _ => part root

end Graph

/-- Whether a character may occur in a text. -/
def isAllowed (c : Char) : Bool :=
  let n := c.toNat
  n == 9 || n == 10 || n == 13 || (0x20 ≤ n && n ≤ 0x7e) || n == 0x85 ||
    (0xa0 ≤ n && n ≤ 0xfffd) || 0x10000 ≤ n

/-- The value that a text means; a text without a document means nothing. -/
def read (text : String) : Except Fault Value := do
  if !text.toList.all isAllowed then throw .character
  match ← Graph.ofTokens (tokens text) with
  | (_, none) => pure .null
  | (g, some root) => do
    g.check root
    (·.1) <$> (g.rootValue root).run (Array.replicate g.size none)

end StateTraces.Yaml
