import StateTraces.Value

/-
JSON values inside messages. A value that stands alone is shown without quotes if it is a text. A
value with an integer that is too long cannot be part of a message.
-/

namespace StateTraces.Json

/-- A value as part of a message, texts in quotes. -/
def literal (j : Json) : String := (Value.ofJson j).literal

/-- Writes a value as part of a message. -/
def literal? (j : Json) : Option String := (Value.ofJson j).literal?

/-- Writes a value that stands alone. -/
def shown? : Json → Option String
  | .str s => some s
  | j => literal? j

end StateTraces.Json
