/-
Tables: rows of a key and a value in order of first insertion. Setting a key that is already there
changes its value and keeps its place.
-/

namespace StateTraces

/-- Rows of a key and a value, in order of first insertion. -/
abbrev Table (κ υ : Type) := List (κ × υ)

namespace Table

variable {κ υ : Type} [DecidableEq κ]

def keys (t : Table κ υ) : List κ := t.map Prod.fst

/-- The value of the first row with this key. -/
def get? (k : κ) : Table κ υ → Option υ
  | [] => none
  | (k', v) :: t => if k' = k then some v else get? k t

/-- Sets a key: in place if it is there, else as a new last row. -/
def set (k : κ) (v : υ) : Table κ υ → Table κ υ
  | [] => [(k, v)]
  | (k', v') :: t => if k' = k then (k', v) :: t else (k', v') :: set k v t

/-- Sets every row of the second table in the first, in order. -/
def merge (t u : Table κ υ) : Table κ υ := u.foldl (fun t r => t.set r.1 r.2) t

/-- The rows whose value is not missing. -/
def present (t : Table κ (Option υ)) : Table κ υ := t.filterMap fun r => r.2.map fun v => (r.1, v)

/-! ## Keys -/

theorem keys_set (k : κ) (v : υ) (t : Table κ υ) :
    (t.set k v).keys = if k ∈ t.keys then t.keys else t.keys ++ [k] := by
  induction t with
  | nil => simp [set, keys]
  | cons r t ih =>
    obtain ⟨k', v'⟩ := r
    unfold set
    by_cases h : k' = k
    · subst h; simp [keys]
    · have h' : ¬ k = k' := fun e => h e.symm
      simp only [keys, List.map_cons, if_neg h, List.mem_cons, h', false_or] at ih ⊢
      rw [ih]; split <;> simp_all

theorem nodup_keys_set {k : κ} {v : υ} {t : Table κ υ} (h : t.keys.Nodup) :
    (t.set k v).keys.Nodup := by
  rw [keys_set]
  split
  · exact h
  · rename_i hk
    rw [List.nodup_append]
    refine ⟨h, by simp, fun a ha b hb e => hk ?_⟩
    rw [← List.mem_singleton.1 hb, ← e]
    exact ha

theorem mem_set {k : κ} {v : υ} {t : Table κ υ} {r : κ × υ} (h : r ∈ t.set k v) :
    r ∈ t ∨ r = (k, v) := by
  induction t with
  | nil => simpa [set] using h
  | cons s t ih =>
    obtain ⟨k', v'⟩ := s
    unfold set at h
    split at h
    · rename_i hk
      rcases List.mem_cons.1 h with h | h
      · exact Or.inr (by rw [h, hk])
      · exact Or.inl (List.mem_cons_of_mem _ h)
    · rcases List.mem_cons.1 h with h | h
      · exact Or.inl (by simp [h])
      · rcases ih h with h | h
        · exact Or.inl (List.mem_cons_of_mem _ h)
        · exact Or.inr h

theorem get?_set (k k' : κ) (v : υ) (t : Table κ υ) :
    (t.set k v).get? k' = if k = k' then some v else t.get? k' := by
  induction t with
  | nil => simp [set, get?]
  | cons r t ih =>
    obtain ⟨k₁, v₁⟩ := r
    unfold set
    by_cases h : k₁ = k
    · subst h; by_cases h' : k₁ = k' <;> simp [get?, h']
    · rw [if_neg h]
      simp only [get?, ih]
      by_cases h₁ : k₁ = k' <;> by_cases h₂ : k = k' <;> simp_all

theorem mem_of_get? {k : κ} {v : υ} : ∀ {t : Table κ υ}, t.get? k = some v → (k, v) ∈ t
  | (k', v') :: t, h => by
    unfold get? at h
    split at h
    · rename_i hk
      cases h; exact hk ▸ List.mem_cons_self ..
    · exact List.mem_cons_of_mem _ (mem_of_get? h)

end Table

end StateTraces
