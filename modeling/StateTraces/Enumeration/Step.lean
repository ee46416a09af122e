import StateTraces.Graph
import StateTraces.Subset

/-
The steps at one vertex of a search. Every non-empty subset of the out-edges is chosen, smaller
sizes first, and the chosen targets that are still fresh are entered. Each size starts from the same
fresh vertices; inside a size a target that was entered once is fresh no longer.
-/

namespace StateTraces.Enumeration

variable {V L : Type} [DecidableEq V]

/-- A step at a vertex where fewer than `bound` vertices are fresh after an entry. -/
inductive Step (V L : Type) (bound : Nat) where
  | choose (chosen : List (V × L))
  | enter (chosen : List (V × L)) (target : V) (label : L) (fresh : List V)
      (smaller : fresh.length < bound)

/-- The fresh vertices of a size group. -/
abbrev Fresh (V : Type) (bound : Nat) := { fresh : List V // fresh.length ≤ bound }

omit [DecidableEq V] in
theorem length_filter_lt {fresh : List V} {t : V} {p : V → Bool} {bound : Nat} (h : t ∈ fresh)
    (hp : p t = false) (hb : fresh.length ≤ bound) : (fresh.filter p).length < bound := by
  have : (fresh.filter p).length < fresh.length := by
    rw [List.length_filter_lt_length_iff_exists]
    exact ⟨t, h, by simp [hp]⟩
  omega

/-- Enters the fresh targets among some edges of a choice, one after another. -/
def enterFresh {bound : Nat} (chosen : List (V × L)) :
    List (V × L) → Fresh V bound → List (Step V L bound) × Fresh V bound
  | [], fresh => ([], fresh)
  | (t, l) :: es, fresh =>
    if h : t ∈ fresh.1 then
      have smaller : (fresh.1.filter (· ≠ t)).length < bound :=
        length_filter_lt h (by simp) fresh.2
      let r := enterFresh chosen es ⟨fresh.1.filter (· ≠ t), Nat.le_of_lt smaller⟩
      (.enter chosen t l (fresh.1.filter (· ≠ t)) smaller :: r.1, r.2)
    else enterFresh chosen es fresh

/-- A choice and the entries that follow it. -/
def chooseAndEnter {bound : Nat} (fresh : Fresh V bound) (chosen : List (V × L)) :
    List (Step V L bound) × Fresh V bound :=
  let r := enterFresh chosen chosen fresh
  (.choose chosen :: r.1, r.2)

/-- The steps for the subsets of one size. -/
def sizeGroup (edges : List (V × L)) (fresh : List V) (size : Nat) :
    Feed (Step V L fresh.length) :=
  (Subset.ofSize size edges).through chooseAndEnter ⟨fresh, Nat.le_refl _⟩

/-- All steps at a vertex with these out-edges. -/
def steps (edges : List (V × L)) (fresh : List V) : Feed (Step V L fresh.length) :=
  (Feed.ofList (List.range' 1 edges.length)).flatMap (sizeGroup edges fresh)

end StateTraces.Enumeration
