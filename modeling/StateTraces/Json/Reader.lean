import StateTraces.Json.Token

/-
Reading JSON values. A value is put together from its tokens, one at a time, with the unfinished
arrays and objects around it on a stack. Of two members with one key the later value counts.
-/

namespace StateTraces.Json

/-- An unfinished array, its items in reverse order, or an unfinished object and the key whose
value is due. -/
inductive Frame where
  | items (before : List Json)
  | member (before : List (String × Json)) (key : String)

/-- What may come next, inside the given frames. -/
inductive Reading where
  | value (outer : List Frame)
  | itemOrEnd (outer : List Frame)
  | keyOrEnd (outer : List Frame)
  | key (before : List (String × Json)) (outer : List Frame)
  | colon (before : List (String × Json)) (key : String) (outer : List Frame)
  | complete (value : Json) (outer : List Frame)

namespace Reading

/-- A token where a value is due. -/
def startValue (outer : List Frame) : Token → Option Reading
  | .scalar v => some (.complete v outer)
  | .mark '[' => some (.itemOrEnd outer)
  | .mark '{' => some (.keyOrEnd outer)
  | .mark _ => none

/-- One token further. -/
def step : Reading → Token → Option Reading
  | .value outer, t => startValue outer t
  | .itemOrEnd outer, .mark ']' => some (.complete (.arr []) outer)
  | .itemOrEnd outer, t => startValue (.items [] :: outer) t
  | .keyOrEnd outer, .mark '}' => some (.complete (.obj []) outer)
  | .keyOrEnd outer, .scalar (.str k) => some (.colon [] k outer)
  | .key before outer, .scalar (.str k) => some (.colon before k outer)
  | .colon before k outer, .mark ':' => some (.value (.member before k :: outer))
  | .complete v (.items before :: outer), .mark ',' => some (.value (.items (v :: before) :: outer))
  | .complete v (.items before :: outer), .mark ']' =>
    some (.complete (.arr (v :: before).reverse) outer)
  | .complete v (.member before k :: outer), .mark ',' => some (.key (Table.set k v before) outer)
  | .complete v (.member before k :: outer), .mark '}' =>
    some (.complete (.obj (Table.set k v before)) outer)
  | _, _ => none

/-- The value, if it is complete and nothing is open around it. -/
def result? : Reading → Option Json
  | .complete v [] => some v
  | _ => none

end Reading

/-- The value that a text writes, if it writes exactly one. -/
def read? (s : String) : Option Json := do
  let tokens ← Token.all? s.toList
  (← tokens.foldlM Reading.step (.value [])).result?

end StateTraces.Json
