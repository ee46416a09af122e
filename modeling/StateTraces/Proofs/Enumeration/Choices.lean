import Mathlib.Data.List.Shortlex
import Mathlib.Data.Nat.Choose.Sum
import StateTraces.Proofs.Enumeration.Entry
import StateTraces.Proofs.Graph
import StateTraces.Proofs.Subset.Positions

/-
The choices at a vertex, told by positions: the increasing lists of positions of its out-edges, shorter ones
first and those of one length in lexicographic order. Each of them is looked up among the out-edges, so a
choice is in the order of the edges. The numbers for all sizes add up to one less than a power of two.
-/

namespace StateTraces.Subset

variable {α β : Type}

/-! ## Subsets by position -/

theorem toList_ofSize_map (f : α → β) (k : Nat) (xs : List α) :
    (ofSize k (xs.map f)).toList = (ofSize k xs).toList.map (List.map f) := by
  induction xs generalizing k with
  | nil => cases k <;> rfl
  | cons x xs ih =>
    cases k with
    | zero => simp
    | succ k =>
      rw [List.map_cons, toList_ofSize_cons, toList_ofSize_cons, ih, ih, List.map_append, List.map_map, List.map_map]
      rfl

theorem toList_nonEmpty_map (f : α → β) (xs : List α) :
    (nonEmpty (xs.map f)).toList = (nonEmpty xs).toList.map (List.map f) := by
  simp only [toList_nonEmpty, List.length_map, toList_ofSize_map, List.map_flatMap]

/-- The non-empty subsets of a list are those of its positions, looked up. -/
theorem toList_nonEmpty_positions (xs : List α) :
    (nonEmpty xs).toList = (nonEmpty (List.finRange xs.length)).toList.map (List.map xs.get) := by
  conv_lhs => rw [← List.map_get_finRange xs]
  rw [toList_nonEmpty_map]

/-- Shorter subsets come first, and those of one length in lexicographic order. -/
theorem pairwise_nonEmpty {r : α → α → Prop} {xs : List α} (h : xs.Pairwise r) :
    (nonEmpty xs).toList.Pairwise (List.Shortlex r) := by
  rw [toList_nonEmpty, List.pairwise_flatMap]
  refine ⟨fun k _ => ?_, (List.pairwise_lt_range' 1 Nat.one_pos).imp ?_⟩
  · refine (pairwise_ofSize h k).imp_of_mem fun hc hd hlex => .of_lex ?_ hlex
    rw [(mem_ofSize.1 hc).2, (mem_ofSize.1 hd).2]
  · intro j k hjk c hc d hd
    refine .of_length_lt ?_
    rw [(mem_ofSize.1 hc).2, (mem_ofSize.1 hd).2]
    exact hjk

/-- All subsets together are as many as a power of two, and the empty one is left out. -/
theorem choiceCount_eq_pow (degree : Nat) : choiceCount degree = 2 ^ degree - 1 := by
  have hsum : ((List.range (degree + 1)).map degree.choose).sum = 2 ^ degree := Nat.sum_range_choose degree
  rw [List.range_succ_eq_map, List.map_cons, List.sum_cons, Nat.choose_zero_right, List.map_map] at hsum
  rw [choiceCount_eq, List.range'_eq_map_range, List.map_map, ← hsum, Nat.add_sub_cancel_left]
  simp only [Function.comp_def, Nat.succ_eq_add_one, Nat.add_comm 1]

end StateTraces.Subset

namespace StateTraces.Enumeration

variable {V L : Type} [DecidableEq V]

/-- The choices at a vertex, one after another, in a search that goes through the steps there. -/
def choicesAt (g : Graph V L) (v : V) (fresh : List V) : List (List (V × L)) :=
  (steps (g.outEdges v) fresh).toList.filterMap Step.choice?

/-- Whatever was visited before, the choices at a vertex are the non-empty subsets of its out-edges, each of
them once and in the order of the edges. By their positions, they are all the non-empty increasing lists,
shorter ones first and those of one length in lexicographic order. There are as many of them as are counted,
which is one less than a power of two. -/
theorem choices_at_vertex (g : Graph V L) (v : V) (fresh : List V) :
    (∃ ps : List (List (Fin (g.outDegree v))),
      choicesAt g v fresh = ps.map (List.map (g.outEdges v).get) ∧
      (∀ p, p ∈ ps ↔ p ≠ [] ∧ p.Pairwise (· < ·)) ∧
      ps.Pairwise (List.Shortlex (· < ·))) ∧
    (∀ c, c ∈ choicesAt g v fresh ↔ c ≠ [] ∧ c.Sublist (g.outEdges v)) ∧
    (choicesAt g v fresh).Nodup ∧
    Subset.countChoices (g.outDegree v) = .ok (choicesAt g v fresh).length ∧
    ∀ degree : Nat, Subset.countChoices degree = .ok (2 ^ degree - 1) := by
  have hchoices : choicesAt g v fresh = (Subset.nonEmpty (g.outEdges v)).toList := choices_steps ..
  have hedges : (g.outEdges v).Nodup := (g.nodup_outEdges v).of_map
  have hcount : ∀ degree : Nat, Subset.countChoices degree = .ok (Subset.choiceCount degree) := fun degree =>
    if_neg (by omega)
  refine ⟨⟨_, ?_, fun p => ?_, Subset.pairwise_nonEmpty (List.pairwise_lt_finRange _)⟩, fun c => ?_, ?_, ?_,
    fun degree => ?_⟩
  · rw [hchoices]
    exact Subset.toList_nonEmpty_positions _
  · rw [Subset.mem_nonEmpty, Subset.sublist_iff_of_sorted (List.pairwise_lt_finRange _), and_comm]
    simp [List.subset_def]
  · rw [hchoices, Subset.mem_nonEmpty, and_comm]
  · rw [hchoices]
    exact Subset.nodup_nonEmpty hedges
  · rw [hcount, hchoices, Subset.length_nonEmpty]
    rfl
  · rw [hcount, Subset.choiceCount_eq_pow]

end StateTraces.Enumeration
