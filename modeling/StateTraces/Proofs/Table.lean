import Mathlib.Data.List.Induction
import StateTraces.Proofs.Order
import StateTraces.Table

/-
Laws of tables: where a key is found, and what setting row by row comes to. Tables that are set one over
another keep each key where it was mentioned first, with the value that it was given last.
-/

namespace StateTraces.Table

variable {κ υ : Type} [DecidableEq κ]

theorem get?_append (k : κ) : ∀ t u : Table κ υ, get? k (t ++ u) = (get? k t).or (get? k u)
  | [], u => by simp [get?]
  | (k', v) :: t, u => by
    rw [List.cons_append, get?, get?, get?_append k t u]
    split <;> rfl

theorem get?_map (f : κ → υ → υ) (k : κ) : ∀ t : Table κ υ,
    get? k (t.map fun r => (r.1, f r.1 r.2)) = (get? k t).map (f k)
  | [] => rfl
  | (k', v) :: t => by
    rw [List.map_cons, get?, get?, get?_map f k t]
    split
    · rename_i h; subst h; rfl
    · rfl

theorem get?_of_mem {k : κ} {v : υ} : ∀ {t : Table κ υ}, t.keys.Nodup → (k, v) ∈ t → t.get? k = some v
  | (k', v') :: t, hnd, h => by
    rw [keys, List.map_cons, List.nodup_cons] at hnd
    unfold get?
    rcases List.mem_cons.1 h with h | h
    · cases h; simp
    · have hne : k' ≠ k := fun hk => hnd.1 (List.mem_map.2 ⟨(k, v), h, hk.symm⟩)
      rw [if_neg hne]; exact get?_of_mem hnd.2 h

theorem get?_eq_none {k : κ} {t : Table κ υ} : t.get? k = none ↔ k ∉ t.keys := by
  induction t with
  | nil => simp [get?, keys]
  | cons r t ih =>
    obtain ⟨k', v⟩ := r
    rw [get?, keys, List.map_cons, List.mem_cons, not_or]
    split
    · rename_i h; simp [h]
    · rename_i h
      rw [ih]
      exact ⟨fun ht => ⟨fun he => h he.symm, ht⟩, And.right⟩

theorem set_of_not_mem {k : κ} (v : υ) : ∀ {t : Table κ υ}, k ∉ t.keys → set k v t = t ++ [(k, v)]
  | [], _ => rfl
  | (k', v') :: t, h => by
    rw [keys, List.map_cons, List.mem_cons, not_or] at h
    rw [set, if_neg fun he => h.1 he.symm, set_of_not_mem v h.2]
    rfl

theorem merge_append_singleton (t u : Table κ υ) (r : κ × υ) :
    merge t (u ++ [r]) = set r.1 r.2 (merge t u) :=
  List.foldl_append

/-- A table set row by row is the table itself. -/
theorem merge_nil {t : Table κ υ} (h : t.keys.Nodup) : merge [] t = t := by
  induction t using List.reverseRecOn with
  | nil => rfl
  | append_singleton t r ih =>
    rw [keys, List.map_append, List.nodup_append] at h
    obtain ⟨hnd, -, hnew⟩ := h
    have hr : r.1 ∉ keys t := fun hmem => hnew r.1 hmem r.1 (List.mem_singleton_self _) rfl
    rw [merge_append_singleton, ih hnd, set_of_not_mem r.2 hr]

/-- The last row with a key counts, of those that are set. -/
theorem get?_merge (t u : Table κ υ) (k : κ) : (t.merge u).get? k = (get? k u.reverse).or (t.get? k) := by
  induction u using List.reverseRecOn with
  | nil => rfl
  | append_singleton u r ih =>
    rw [merge_append_singleton, get?_set, ih, List.reverse_concat, get?]
    split <;> rfl

/-- A value that all rows with its key have. -/
theorem get?_eq_some {k : κ} {v : υ} {t : Table κ υ} (hmem : (k, v) ∈ t) (h : ∀ r ∈ t, r.1 = k → r.2 = v) :
    t.get? k = some v := by
  induction t with
  | nil => cases hmem
  | cons r t ih =>
    rw [get?]
    split
    · rename_i hk
      rw [h r (List.mem_cons_self ..) hk]
    · rename_i hk
      rcases List.mem_cons.1 hmem with rfl | hmem
      · exact absurd rfl hk
      · exact ih hmem fun s hs => h s (List.mem_cons_of_mem _ hs)

/-! ## Missing values -/

omit [DecidableEq κ] in
theorem keys_present_sublist (t : Table κ (Option υ)) : (present t).keys.Sublist t.keys := by
  induction t with
  | nil => exact .slnil
  | cons r t ih =>
    obtain ⟨k, v?⟩ := r
    cases v? with
    | none => exact ih.cons k
    | some v => exact ih.cons_cons k

/-- A key has the value that is not missing. -/
theorem get?_present {t : Table κ (Option υ)} (h : t.keys.Nodup) (k : κ) : (present t).get? k = (t.get? k).join := by
  induction t with
  | nil => rfl
  | cons r t ih =>
    obtain ⟨k', v?⟩ := r
    obtain ⟨hnew, hnodup⟩ := List.nodup_cons.1 h
    have hold : k' = k → get? k (present t) = none := fun hk =>
      get?_eq_none.2 fun hmem => hnew (hk ▸ (keys_present_sublist t).subset hmem)
    rw [get?]
    cases v? with
    | none =>
      show get? k (present t) = _
      split
      · rename_i hk
        rw [hold hk]
        rfl
      · exact ih hnodup
    | some v =>
      show get? k ((k', v) :: present t) = _
      rw [get?]
      split
      · rfl
      · exact ih hnodup

omit [DecidableEq κ] in
theorem mem_present {t : Table κ (Option υ)} {r : κ × υ} : r ∈ present t ↔ (r.1, some r.2) ∈ t := by
  simp only [present, List.mem_filterMap, Option.map_eq_some_iff]
  constructor
  · rintro ⟨⟨k, v?⟩, hmem, v, rfl, rfl⟩
    exact hmem
  · exact fun hmem => ⟨_, hmem, r.2, rfl, rfl⟩

/-! ## Layers -/

/-- The table is these layers, one over another: every key where it was mentioned first, with the value that
it was given last. -/
structure Layered (layers : List (Table κ υ)) (t : Table κ υ) : Prop where
  keys_eq : t.keys = (layers.flatMap keys).eraseDups
  get?_eq : ∀ k, t.get? k = get? k layers.flatten.reverse

theorem keys_merge_nil (u : Table κ υ) : (merge [] u).keys = u.keys.eraseDups := by
  induction u using List.reverseRecOn with
  | nil => rfl
  | append_singleton u r ih =>
    have hkeys : keys (u ++ [r]) = keys u ++ [r.1] := List.map_append
    rw [merge_append_singleton, keys_set, ih, hkeys, eraseDups_append_singleton]
    simp only [List.mem_eraseDups]

theorem mem_merge {t u : Table κ υ} {r : κ × υ} (h : r ∈ t.merge u) : r ∈ t ∨ r ∈ u := by
  induction u using List.reverseRecOn with
  | nil => exact .inl h
  | append_singleton u s ih =>
    rw [merge_append_singleton] at h
    rcases mem_set h with h | rfl
    · exact (ih h).imp_right (List.mem_append_left _)
    · exact .inr (List.mem_append_right _ (List.mem_singleton_self _))

theorem nodup_keys_merge {t : Table κ υ} (h : t.keys.Nodup) (u : Table κ υ) : (t.merge u).keys.Nodup := by
  induction u using List.reverseRecOn with
  | nil => exact h
  | append_singleton u r ih =>
    rw [merge_append_singleton]
    exact nodup_keys_set ih

theorem layered_foldl (layers : List (Table κ υ)) : Layered layers (layers.foldl merge []) := by
  have hflat : layers.foldl merge [] = merge [] layers.flatten := List.foldl_flatten.symm
  rw [hflat]
  constructor
  · rw [keys_merge_nil, keys, List.map_flatten, List.flatMap_def]
    rfl
  · intro k
    rw [get?_merge, get?, Option.or_none]

end StateTraces.Table
