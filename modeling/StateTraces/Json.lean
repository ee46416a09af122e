import StateTraces.Number.Binary64
import StateTraces.Table

/-
JSON values. Objects keep the order of their members.
-/

namespace StateTraces

/-- A JSON value; numbers are integers of any size or floating-point values. -/
inductive Json where
  | null
  | bool (value : Bool)
  | int (value : Int)
  | real (value : Binary64)
  | str (value : String)
  | arr (items : List Json)
  | obj (members : List (String × Json))
  deriving BEq, Inhabited

namespace Json

/-- The member of an object, if the value is an object that has it. -/
def get? (j : Json) (key : String) : Option Json :=
  match j with
  | .obj members => Table.get? key members
  | _ => none

def str? : Json → Option String
  | .str s => some s
  | _ => none

def int? : Json → Option Int
  | .int n => some n
  | _ => none

def bool? : Json → Option Bool
  | .bool b => some b
  | _ => none

def items? : Json → Option (List Json)
  | .arr items => some items
  | _ => none

def members? : Json → Option (List (String × Json))
  | .obj members => some members
  | _ => none

/-- A text, or null for none. -/
def ofText? : Option String → Json
  | none => .null
  | some s => .str s

/-- A natural number, or null for none. -/
def ofNat? : Option Nat → Json
  | none => .null
  | some n => .int n

end Json

end StateTraces
