import StateTraces.Json
import StateTraces.Moment
import StateTraces.Text.Numeral

/-
Values as settings hold them before they are checked: what JSON can hold, bytes, dates and moments,
pairs, sets, and tables whose keys are values again. A collection may stand inside itself. In a
message texts stand in quotes, and `True`, `False` and `None` are the words for truth values and for
nothing. Texts are made of characters, so halves of characters (lone surrogates) do not occur in them.
-/

namespace StateTraces

open Text (quoted)

/-- A value that nobody has checked yet. The last one stands for a collection around it. -/
inductive Value where
  | null
  | bool (value : Bool)
  | int (value : Int)
  | real (value : Binary64)
  | text (value : String)
  | bytes (value : List UInt8)
  | date (year month day : Nat)
  | moment (value : Moment)
  | pair (first second : Value)
  | list (items : List Value)
  | set (items : List Value)
  | table (rows : List (Value × Value))
  | again (isTable : Bool)
  deriving BEq, Inhabited

namespace Value

/-! ## From JSON -/

mutual

def ofJson : Json → Value
  | .null => .null
  | .bool b => .bool b
  | .int n => .int n
  | .real x => .real x
  | .str s => .text s
  | .arr js => .list (ofItems js)
  | .obj ms => .table (ofMembers ms)

def ofItems : List Json → List Value
  | [] => []
  | j :: js => ofJson j :: ofItems js

def ofMembers : List (String × Json) → List (Value × Value)
  | [] => []
  | (k, j) :: ms => (.text k, ofJson j) :: ofMembers ms

end

/-! ## Inside messages -/

mutual

/-- The value as part of a message. -/
def literal : Value → String
  | .null => "None"
  | .bool b => if b then "True" else "False"
  | .int n => String.ofList (Text.decimal n)
  | .real x => x.text
  | .text s => quoted s
  | .bytes bs => Text.quotedBytes bs
  | .date year month day => s!"datetime.date({year}, {month}, {day})"
  | .moment m => m.literal
  | .pair v w => "(" ++ literal v ++ ", " ++ literal w ++ ")"
  | .list [] => "[]"
  | .list (v :: vs) => "[" ++ literal v ++ moreItems vs ++ "]"
  | .set [] => "set()"
  | .set (v :: vs) => "\x7b" ++ literal v ++ moreItems vs ++ "\x7d"
  | .table [] => "\x7b\x7d"
  | .table ((k, v) :: rows) => "\x7b" ++ literal k ++ ": " ++ literal v ++ moreRows rows
  | .again isTable => if isTable then "\x7b...\x7d" else "[...]"

def moreItems : List Value → String
  | [] => ""
  | v :: vs => ", " ++ literal v ++ moreItems vs

def moreRows : List (Value × Value) → String
  | [] => "\x7d"
  | (k, v) :: rows => ", " ++ literal k ++ ": " ++ literal v ++ moreRows rows

end

/-! ## Long integers -/

mutual

/-- Whether the value can be a part of a message: no integer in it is too long. -/
def isWritable : Value → Bool
  | .int n => (Text.writeInteger? n).isSome
  | .pair v w => isWritable v && isWritable w
  | .list vs | .set vs => areWritable vs
  | .table rows => rowsAreWritable rows
  | _ => true

def areWritable : List Value → Bool
  | [] => true
  | v :: vs => isWritable v && areWritable vs

def rowsAreWritable : List (Value × Value) → Bool
  | [] => true
  | (k, v) :: rows => isWritable k && isWritable v && rowsAreWritable rows

end

/-- Writes the value as part of a message. -/
def literal? (v : Value) : Option String := if v.isWritable then some v.literal else none

/-- The word for what kind of value it is. -/
def kindName : Value → String
  | .null => "NoneType"
  | .bool _ => "bool"
  | .int _ => "int"
  | .real _ => "float"
  | .text _ => "str"
  | .bytes _ => "bytes"
  | .date .. => "date"
  | .moment _ => "datetime"
  | .pair .. => "tuple"
  | .list _ => "list"
  | .set _ => "set"
  | .table _ => "dict"
  | .again isTable => if isTable then "dict" else "list"

/-- Nothing, a truth value that is false, a zero, or something without content. -/
def isVoid : Value → Bool
  | .null => true
  | .bool b => !b
  | .int n => n == 0
  | .real x => x.isInt 0
  | .text s => s == ""
  | .bytes bs => bs.isEmpty
  | .date .. | .moment _ | .pair .. | .again _ => false
  | .list vs | .set vs => vs.isEmpty
  | .table rows => rows.isEmpty

/-- Whether two values are one key: numbers and truth values count by what they are worth. -/
def isSameKey : Value → Value → Bool
  | .bool a, .bool b => a == b
  | .bool a, .int n | .int n, .bool a => n == (if a then 1 else 0)
  | .bool a, .real x | .real x, .bool a => x.isInt (if a then 1 else 0)
  | .int n, .real x | .real x, .int n => x.isInt n
  | .real x, .real y => x == y || (x.isInt 0 && y.isInt 0)
  | v, w => v == w

end Value

end StateTraces
