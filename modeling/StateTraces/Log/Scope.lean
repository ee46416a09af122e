import StateTraces.Json
import StateTraces.Table

/-
The context of log records. Blocks are entered and left one inside the other; a block adds its
fields to the context, and leaving it brings back the context from before.
-/

namespace StateTraces.Log

/-- The current context, and the contexts that come back when blocks are left. -/
structure Scope where
  current : Table String Json := []
  outer : List (Table String Json) := []
  deriving Inhabited

namespace Scope

def enter (s : Scope) (fields : Table String Json) : Scope :=
  ⟨s.current.merge fields, s.current :: s.outer⟩

def leave (s : Scope) : Scope :=
  match s.outer with
  | [] => s
  | c :: outer => ⟨c, outer⟩

end Scope

end StateTraces.Log
