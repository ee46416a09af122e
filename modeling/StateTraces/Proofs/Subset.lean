import Mathlib.Algebra.Order.Ring.Nat
import Mathlib.Data.List.Nodup
import Mathlib.Data.Nat.Choose.Basic
import StateTraces.Subset

/-
The subsets of a list by position: those of one size are exactly the sublists of that length, and
the non-empty ones are exactly the non-empty sublists. A list without repeats has each of them once.
There are binomially many of each size, and `choiceCount` many of all sizes together.
-/

namespace StateTraces.Subset

variable {α : Type}

/-! ## One size -/

theorem ofSize_of_length_lt : ∀ {k : Nat} {xs : List α}, xs.length < k → (ofSize k xs).toList = []
  | _ + 1, [], _ => rfl
  | k + 1, x :: xs, h => by
    have hx : xs.length < k := by simpa using h
    simp [ofSize, hx]

@[simp] theorem toList_ofSize_zero (xs : List α) : (ofSize 0 xs).toList = [[]] := by
  cases xs <;> rfl

@[simp] theorem toList_ofSize_nil (k : Nat) : (ofSize (k + 1) ([] : List α)).toList = [] := rfl

/-- The subsets with the head come before those without it. -/
theorem toList_ofSize_cons (k : Nat) (x : α) (xs : List α) :
    (ofSize (k + 1) (x :: xs)).toList =
      (ofSize k xs).toList.map (x :: ·) ++ (ofSize (k + 1) xs).toList := by
  by_cases h : xs.length < k
  · simp [ofSize, h, ofSize_of_length_lt h, ofSize_of_length_lt (Nat.lt_succ_of_lt h)]
  · simp [ofSize, h]

theorem mem_ofSize {k : Nat} {c xs : List α} :
    c ∈ (ofSize k xs).toList ↔ c.Sublist xs ∧ c.length = k := by
  induction xs generalizing k c with
  | nil =>
    cases k with
    | zero => simp
    | succ k =>
      simp only [toList_ofSize_nil, List.not_mem_nil, List.sublist_nil, false_iff, not_and]
      rintro rfl; simp
  | cons x xs ih =>
    cases k with
    | zero =>
      simp only [toList_ofSize_zero, List.mem_singleton, List.length_eq_zero_iff, iff_and_self]
      rintro rfl; exact List.nil_sublist _
    | succ k =>
      rw [toList_ofSize_cons, List.mem_append, List.mem_map, ih]
      constructor
      · rintro (⟨d, hd, rfl⟩ | ⟨h, hl⟩)
        · obtain ⟨hs, hl⟩ := ih.1 hd
          exact ⟨hs.cons_cons x, by simp [hl]⟩
        · exact ⟨h.cons x, hl⟩
      · rintro ⟨h, hl⟩
        cases h with
        | cons _ h => exact .inr ⟨h, hl⟩
        | cons_cons _ h => exact .inl ⟨_, ih.2 ⟨h, by simpa using hl⟩, rfl⟩

theorem nodup_ofSize {k : Nat} {xs : List α} (h : xs.Nodup) : (ofSize k xs).toList.Nodup := by
  induction xs generalizing k with
  | nil => cases k <;> simp
  | cons x xs ih =>
    cases k with
    | zero => simp
    | succ k =>
      obtain ⟨hx, hxs⟩ := List.nodup_cons.1 h
      rw [toList_ofSize_cons, List.nodup_append]
      refine ⟨(ih hxs).map (List.cons_injective), ih hxs, ?_⟩
      -- a subset without the head never equals one with it
      rintro _ ha c hc rfl
      obtain ⟨d, -, rfl⟩ := List.mem_map.1 ha
      exact hx ((mem_ofSize.1 hc).1.subset (List.mem_cons_self ..))

theorem length_ofSize (k : Nat) (xs : List α) : (ofSize k xs).toList.length = xs.length.choose k := by
  induction xs generalizing k with
  | nil => cases k <;> rfl
  | cons x xs ih =>
    cases k with
    | zero => rw [toList_ofSize_zero, List.length_singleton, Nat.choose_zero_right]
    | succ k => rw [toList_ofSize_cons, List.length_append, List.length_map, ih, ih, List.length_cons,
        Nat.choose_succ_succ]

/-! ## All sizes -/

theorem toList_nonEmpty (xs : List α) :
    (nonEmpty xs).toList = (List.range' 1 xs.length).flatMap fun k => (ofSize k xs).toList := by
  simp [nonEmpty]

theorem mem_nonEmpty {c xs : List α} : c ∈ (nonEmpty xs).toList ↔ c.Sublist xs ∧ c ≠ [] := by
  simp only [toList_nonEmpty, List.mem_flatMap, List.mem_range'_1, mem_ofSize]
  constructor
  · rintro ⟨k, ⟨hk, -⟩, hs, rfl⟩
    exact ⟨hs, List.ne_nil_of_length_pos hk⟩
  · rintro ⟨hs, hne⟩
    have := hs.length_le
    exact ⟨c.length, ⟨List.length_pos_of_ne_nil hne, by omega⟩, hs, rfl⟩

theorem nodup_nonEmpty {xs : List α} (h : xs.Nodup) : (nonEmpty xs).toList.Nodup := by
  rw [toList_nonEmpty, List.nodup_flatMap]
  refine ⟨fun k _ => nodup_ofSize h, List.Pairwise.imp ?_ (List.nodup_range' ..)⟩
  -- subsets of different sizes differ in length
  intro j k hjk c hj hk
  exact hjk ((mem_ofSize.1 hj).2.symm.trans (mem_ofSize.1 hk).2)

/-- One more factor goes from a binomial coefficient to the next one, and the division leaves nothing over. -/
theorem choose_step (n k : Nat) : n.choose k * (n - k) / (k + 1) = n.choose (k + 1) := by
  rw [← Nat.choose_succ_right_eq, Nat.mul_div_cancel _ k.succ_pos]

/-- The running product goes from one binomial coefficient to the next. -/
theorem choiceCount_eq (degree : Nat) :
    choiceCount degree = ((List.range' 1 degree).map degree.choose).sum := by
  have upTo : ∀ n, (List.range n).foldl (fun (acc : Nat × Nat) i =>
      (acc.1 * (degree - i) / (i + 1), acc.2 + acc.1 * (degree - i) / (i + 1))) (1, 0) =
        (degree.choose n, ((List.range' 1 n).map degree.choose).sum) := by
    intro n
    induction n with
    | zero => simp
    | succ n ih =>
      simp only [List.range_succ, List.foldl_append, List.foldl_cons, List.foldl_nil, ih, choose_step,
        List.range'_concat, List.map_append, List.map_cons, List.map_nil, List.sum_append, List.sum_singleton,
        Nat.one_mul, Nat.add_comm 1 n]
  exact congrArg Prod.snd (upTo degree)

theorem length_nonEmpty (xs : List α) : (nonEmpty xs).toList.length = choiceCount xs.length := by
  rw [toList_nonEmpty, List.length_flatMap, choiceCount_eq]
  simp only [length_ofSize]

end StateTraces.Subset
