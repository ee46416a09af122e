import StateTraces.Feed

/-
What happens during an enumeration, event by event, and the counts of a run. A run that is broken
off counts what happened up to there.
-/

namespace StateTraces.Enumeration

/-- A root is taken up, a vertex is expanded, a subset is examined, a result is handed out. -/
inductive Event (V R : Type) where
  | root (vertex : V) (degree : Nat)
  | expand (depth : Nat)
  | choose
  | result (depth : Nat) (value : R)

namespace Event

variable {V R : Type}

def isResult : Event V R → Bool
  | .result .. => true
  | _ => false

def value? : Event V R → Option R
  | .result _ r => some r
  | _ => none

end Event

/-- Counts of roots, subsets and results, and the greatest depth expanded. -/
structure Tally where
  roots : Nat := 0
  combinations : Nat := 0
  emitted : Nat := 0
  deepest : Nat := 0
  deriving DecidableEq, Repr, Inhabited

namespace Tally

variable {V R : Type}

/-- Counts one event. -/
def note (t : Tally) : Event V R → Tally
  | .root .. => { t with roots := t.roots + 1 }
  | .expand depth => { t with deepest := max t.deepest depth }
  | .choose => { t with combinations := t.combinations + 1 }
  | .result .. => { t with emitted := t.emitted + 1 }

def ofEvents (events : Feed (Event V R)) : Tally := events.foldl note {}

end Tally

/-- The results among the events. -/
def results {V R : Type} (events : Feed (Event V R)) : List R :=
  events.toList.filterMap Event.value?

/-- The events up to and with the `n`th result; all of them if there are fewer. -/
def untilResult {V R : Type} (n : Nat) (events : Feed (Event V R)) : Feed (Event V R) :=
  events.upTo Event.isResult n

end StateTraces.Enumeration
