import Mathlib.Data.List.Lex
import Mathlib.Data.List.Perm.Subperm
import Mathlib.Data.List.Sort
import Mathlib.Data.Nat.Choose.Basic
import StateTraces.Proofs.Subset

/-
Requests for the subsets of positions and for their number. The subsets of one size come in the
lexicographic order of whatever order the list is in; those of the first `n` numbers are the increasing
lists of `k` of them, and the product that counts them is the binomial coefficient. A request that makes no
sense is refused both times; one for more positions than a machine word counts is refused when the subsets
are asked for, and one of which no number fits into a machine word also when they are only counted.
-/

namespace StateTraces.Subset

open Nat (factorial)

variable {α : Type}

/-! ## Order -/

/-- The subsets of one size come in lexicographic order, for any order that the list is in. -/
theorem pairwise_ofSize {r : α → α → Prop} {xs : List α} (h : xs.Pairwise r) (k : Nat) :
    (ofSize k xs).toList.Pairwise (List.Lex r) := by
  induction xs generalizing k with
  | nil => cases k <;> simp
  | cons x xs ih =>
    cases k with
    | zero => simp
    | succ k =>
      obtain ⟨hx, hxs⟩ := List.pairwise_cons.1 h
      rw [toList_ofSize_cons, List.pairwise_append]
      refine ⟨List.pairwise_map.2 ((ih hxs k).imp fun hlex => .cons hlex), ih hxs (k + 1), ?_⟩
      -- what has the head comes before what has not: it begins with an element that stands earlier
      rintro _ hc d hd
      obtain ⟨c, -, rfl⟩ := List.mem_map.1 hc
      obtain ⟨hsub, hlength⟩ := mem_ofSize.1 hd
      cases d with
      | nil => cases hlength
      | cons y d => exact .rel (hx y (hsub.subset (List.mem_cons_self ..)))

/-- In a sorted list a subset is known by its elements: it is a sorted list of some of them. -/
theorem sublist_iff_of_sorted [LinearOrder α] {xs c : List α} (h : xs.Pairwise (· < ·)) :
    c.Sublist xs ↔ c.Pairwise (· < ·) ∧ c ⊆ xs := by
  constructor
  · intro hsub
    exact ⟨h.sublist hsub, hsub.subset⟩
  · rintro ⟨hc, hsub⟩
    have hsubperm : c.Subperm xs := List.subperm_of_subset (hc.imp ne_of_lt) hsub
    exact List.sublist_of_subperm_of_pairwise hsubperm (hc.imp le_of_lt) (h.imp le_of_lt)

/-! ## Numbers -/

/-- A running product over the factors of a binomial coefficient. -/
theorem foldl_choose (n k : Nat) :
    (List.range k).foldl (fun acc i => acc * (n - i) / (i + 1)) 1 = n.choose k := by
  induction k with
  | zero => simp
  | succ k ih => rw [List.range_succ, List.foldl_append, ih, List.foldl_cons, List.foldl_nil, choose_step]

theorem binomial_eq {n k : Nat} (h : k ≤ n) : binomial n k = n.choose k := by
  rw [binomial, foldl_choose]
  rcases Nat.le_total k (n - k) with hle | hle
  · rw [Nat.min_eq_left hle]
  · rw [Nat.min_eq_right hle, Nat.choose_symm h]

/-! ## Requests -/

/-- The increasing lists of `k` numbers below `n`, each of them once and in lexicographic order. -/
structure Lists (n k : Nat) (cs : List (List Nat)) : Prop where
  exactly : ∀ c, c ∈ cs ↔ c.length = k ∧ c.Pairwise (· < ·) ∧ ∀ i ∈ c, i < n
  once : cs.Nodup
  ordered : cs.Pairwise (· < ·)
  number : cs.length = factorial n / (factorial k * factorial (n - k))

theorem lists_ofSize {n k : Nat} (h : k ≤ n) : Lists n k (ofSize k (List.range n)).toList where
  exactly c := by
    rw [mem_ofSize, sublist_iff_of_sorted List.pairwise_lt_range, and_comm]
    simp [List.subset_def]
  once := nodup_ofSize List.nodup_range
  ordered := pairwise_ofSize List.pairwise_lt_range k
  number := by rw [length_ofSize, List.length_range, Nat.choose_eq_factorial_div_factorial h]

theorem check_ok {n k : Int} (hk : 1 ≤ k) (hn : k ≤ n) : check n k = .ok () := by
  rw [check, if_neg (by omega), if_neg (by omega)]

/-- The refusal of a request that makes no sense. -/
theorem check_error {n k : Int} (hn : n ≠ 0) (h : ¬ (1 ≤ k ∧ k ≤ n)) :
    check n k = .error (if n < 0 then .negativeCount n else .sizeOutOfRange n k) := by
  rw [check]
  split
  · rfl
  · rw [if_pos ⟨hn, h⟩]

theorem positions_ok {n k : Nat} (hk : 1 ≤ k) (hn : k ≤ n) :
    positions n k = .ok (ofSize k (List.range n)) := by
  have hcheck : check n k = .ok () := check_ok (by omega) (by omega)
  rw [positions, hcheck]
  exact if_neg (by omega)

theorem count_ok {n k : Nat} (hk : 1 ≤ k) (hn : k ≤ n) : count n k = .ok (n.choose k) := by
  have hcheck : check n k = .ok () := check_ok (by omega) (by omega)
  rw [count, hcheck]
  exact (if_neg (by omega)).trans (congrArg Except.ok (binomial_eq hn))

/-- What asking for subsets and asking for their number answer. For a size from one to the number of positions
the subsets are listed exactly, as long as a machine word counts the positions, and their number is that of
the list, as long as one of the numbers fits into a machine word. There is no subset of no positions, of
whatever size, and every other request is refused both times and in the same way. -/
theorem subsets_of_positions (n k : Int) :
    (1 ≤ k → k ≤ n → ∃ f, positions n k = .ok f ∧ Lists n.toNat k.toNat f.toList ∧
      count n k = .ok f.toList.length ∧
      listed n k = (if greatestWord < n then .error .beyondWord else .ok f) ∧
      counted n k = (if greatestWord < n ∧ greatestWord < k ∧ greatestWord < n - k then .error .beyondWord
        else .ok f.toList.length)) ∧
    (n = 0 → listed n k = .ok .done ∧ counted n k = .ok 0) ∧
    (n ≠ 0 → ¬ (1 ≤ k ∧ k ≤ n) →
      ∃ r : Refusal, r.kind = "ValueError" ∧ listed n k = .error r ∧ counted n k = .error r) := by
  refine ⟨fun hk hn => ?_, fun hzero => ?_, fun hn h => ?_⟩
  · have hcheck : check n k = .ok () := check_ok hk hn
    obtain ⟨m, rfl⟩ := Int.eq_ofNat_of_zero_le (show 0 ≤ n by omega)
    obtain ⟨j, rfl⟩ := Int.eq_ofNat_of_zero_le (show 0 ≤ k by omega)
    have hj : 1 ≤ j := by omega
    have hm : j ≤ m := by omega
    have hnumber : count m j = .ok (ofSize j (List.range m)).toList.length := by
      rw [count_ok hj hm, length_ofSize, List.length_range]
    refine ⟨_, positions_ok hj hm, lists_ofSize hm, hnumber, ?_, ?_⟩
    · rw [listed, hcheck, positions_ok hj hm]
      simp only [bind, Except.bind]
      split
      · rfl
      · rfl
    · rw [counted, hcheck, hnumber]
      simp only [bind, Except.bind]
      split
      · rfl
      · rfl
  · rw [hzero]
    exact ⟨rfl, rfl⟩
  · have hcheck := check_error hn h
    refine ⟨_, ?_, by rw [listed, hcheck]; rfl, by rw [counted, hcheck]; rfl⟩
    split
    · rfl
    · rfl

/-- Three of five positions, and four of three. -/
theorem subsets_of_positions_five :
    (1 ≤ 3 ∧ 3 ≤ 5 ∧ ∃ f, positions 5 3 = .ok f ∧ Lists 5 3 f.toList ∧ count 5 3 = .ok f.toList.length) ∧
      ((3 : Int) ≠ 0 ∧ ¬ (1 ≤ (4 : Int) ∧ (4 : Int) ≤ 3) ∧
        ∃ r : Refusal, r.kind = "ValueError" ∧ listed 3 4 = .error r ∧ counted 3 4 = .error r) := by
  obtain ⟨f, hf, hlists, hcount, -⟩ := (subsets_of_positions 5 3).1 (by decide) (by decide)
  have hrefused := (subsets_of_positions 3 4).2.2 (by decide) (by decide)
  exact ⟨⟨by decide, by decide, f, hf, hlists, hcount⟩, by decide, by decide, hrefused⟩

/-- There is one position more than a machine word counts, so its subsets are not listed, although their number
is known. -/
theorem not_listed_beyond_word :
    (¬ ∀ n k : Nat, 1 ≤ k → k ≤ n → ∃ f, listed n k = .ok f ∧ Lists n k f.toList) ∧
      listed 9223372036854775808 1 = .error .beyondWord ∧
      counted 9223372036854775808 1 = .ok 9223372036854775808 := by
  have hrefused : listed 9223372036854775808 1 = .error .beyondWord := rfl
  refine ⟨fun h => ?_, hrefused, rfl⟩
  obtain ⟨f, hf, -⟩ := h 9223372036854775808 1 (by decide) (by decide)
  have hlisted : listed 9223372036854775808 1 = .ok f := hf
  rw [hrefused] at hlisted
  cases hlisted

end StateTraces.Subset
