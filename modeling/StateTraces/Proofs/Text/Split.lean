import Mathlib.Data.List.Basic
import StateTraces.Text.Split

/-
Laws of cutting a text at a separator. No piece holds the separator, and a text without it is one
piece. Cutting undoes joining with the separator, and of texts that each end in a line break it makes
the lines of each of them.
-/

namespace StateTraces.Text

/-! ## Pieces -/

theorem splitChars_ne_nil (separator : Char) (cs : List Char) : splitChars separator cs ≠ [] := by
  cases cs with
  | nil => exact List.cons_ne_nil _ _
  | cons c cs =>
    unfold splitChars
    split
    · exact List.cons_ne_nil _ _
    · split <;> exact List.cons_ne_nil _ _

theorem not_mem_splitChars {separator : Char} : ∀ {cs piece : List Char},
    piece ∈ splitChars separator cs → separator ∉ piece
  | [], piece, h => by
    rw [List.mem_singleton.1 h]
    exact List.not_mem_nil
  | c :: cs, piece, h => by
    have ih : ∀ piece ∈ splitChars separator cs, separator ∉ piece := fun _ => not_mem_splitChars
    unfold splitChars at h
    split at h
    · rcases List.mem_cons.1 h with rfl | h
      · exact List.not_mem_nil
      · exact ih piece h
    · rename_i hc
      split at h
      · rename_i first pieces hpieces
        rcases List.mem_cons.1 h with rfl | h
        · have hfirst : separator ∉ first := ih first (hpieces ▸ List.mem_cons_self ..)
          simpa [Ne.symm hc] using hfirst
        · exact ih piece (hpieces ▸ List.mem_cons_of_mem _ h)
      · rename_i hnil
        exact absurd hnil (splitChars_ne_nil separator cs)

theorem splitChars_of_not_mem {separator : Char} {cs : List Char} (h : separator ∉ cs) :
    splitChars separator cs = [cs] := by
  induction cs with
  | nil => rfl
  | cons c cs ih =>
    obtain ⟨hc, hcs⟩ := not_or.1 fun hmem => h (List.mem_cons.2 hmem)
    rw [splitChars, if_neg fun he => hc he.symm, ih hcs]

theorem not_mem_split {separator : Char} {s piece : String} (h : piece ∈ split separator s) :
    separator ∉ piece.toList := by
  obtain ⟨cs, hcs, rfl⟩ := List.mem_map.1 h
  rw [String.toList_ofList]
  exact not_mem_splitChars hcs

theorem split_of_not_mem {separator : Char} {s : String} (h : separator ∉ s.toList) : split separator s = [s] := by
  rw [split, splitChars_of_not_mem h, List.map_singleton, String.ofList_toList]

theorem splitChars_eq_splitOn (separator : Char) (cs : List Char) :
    splitChars separator cs = cs.splitOn separator := by
  induction cs with
  | nil => rfl
  | cons c cs ih =>
    rw [splitChars, List.splitOn, List.splitOnP_cons_eq_if_modifyHead, ← List.splitOn, ← ih]
    by_cases h : c = separator
    · simp [h]
    · cases hpieces : splitChars separator cs with
      | nil => exact absurd hpieces (splitChars_ne_nil separator cs)
      | cons piece pieces => simp [h]

/-! ## Texts one after another -/

theorem splitChars_append (separator : Char) (cs ds : List Char) :
    splitChars separator (cs ++ separator :: ds) = splitChars separator cs ++ splitChars separator ds := by
  induction cs with
  | nil => simp [splitChars]
  | cons c cs ih =>
    rw [List.cons_append, splitChars, splitChars, ih]
    by_cases h : c = separator
    · simp [h]
    · cases hpieces : splitChars separator cs with
      | nil => exact absurd hpieces (splitChars_ne_nil separator cs)
      | cons piece pieces => simp [h]

section Joining

variable {separator : Char} {sep : String} (hsep : sep.toList = [separator])

include hsep

/-- Texts that are joined by the separator are cut apart again. -/
theorem split_intercalate {texts : List String} (hne : texts ≠ []) (h : ∀ t ∈ texts, separator ∉ t.toList) :
    split separator (sep.intercalate texts) = texts := by
  have hjoined : (sep.intercalate texts).toList = [separator].intercalate (texts.map String.toList) := by
    rw [String.toList_intercalate, hsep]
  rw [split, splitChars_eq_splitOn, hjoined, List.splitOn_intercalate separator (by simpa using h)
    (by simpa using hne), List.map_map]
  simp [Function.comp_def]

theorem split_append (s t : String) : split separator (s ++ sep ++ t) = split separator s ++ split separator t := by
  rw [split, String.toList_append, String.toList_append, hsep, List.append_assoc, List.singleton_append,
    splitChars_append, List.map_append]
  rfl

/-- Texts that each end in the separator are cut one by one, and nothing stands behind the last of them. -/
theorem split_join (texts : List String) :
    split separator (String.join (texts.map (· ++ sep))) = texts.flatMap (split separator) ++ [""] := by
  induction texts with
  | nil => rfl
  | cons t texts ih =>
    rw [List.map_cons, String.join_cons, split_append hsep, ih, List.flatMap_cons, List.append_assoc]

/-- A joined text holds what one of its texts or the separator holds. -/
theorem mem_intercalate {c : Char} (hc : c ≠ separator) {texts : List String} :
    c ∈ (sep.intercalate texts).toList ↔ ∃ t ∈ texts, c ∈ t.toList := by
  induction texts with
  | nil => simp
  | cons t texts ih =>
    by_cases hnil : texts = []
    · simp [hnil]
    · rw [String.intercalate_cons_of_ne_nil hnil, String.toList_append, String.toList_append, hsep]
      simp only [List.mem_append, List.mem_cons, List.not_mem_nil, hc, or_false, ih, exists_eq_or_imp]

end Joining

theorem split_slash_append (s : String) : split '/' ("/" ++ s) = "" :: split '/' s := by
  rw [split, String.toList_append]
  rfl

/-! ## Numbers of pieces -/

/-- There is one piece more than there are separators. -/
theorem length_split (separator : Char) (s : String) :
    (split separator s).length = s.toList.count separator + 1 := by
  rw [split, List.length_map]
  induction s.toList with
  | nil => rfl
  | cons c cs ih =>
    rw [splitChars, List.count_cons]
    by_cases h : c = separator
    · simp [h, ih]
    · cases hpieces : splitChars separator cs with
      | nil => exact absurd hpieces (splitChars_ne_nil separator cs)
      | cons piece pieces =>
        rw [hpieces] at ih
        simpa [h] using ih

/-- There are as many pieces as texts only if no text is cut. -/
theorem length_flatMap_split {separator : Char} {texts : List String} :
    (texts.flatMap (split separator)).length = texts.length ↔ ∀ t ∈ texts, separator ∉ t.toList := by
  have hlength : (texts.flatMap (split separator)).length =
      texts.length + (texts.map fun t => t.toList.count separator).sum := by
    induction texts with
    | nil => rfl
    | cons t texts ih =>
      rw [List.flatMap_cons, List.length_append, ih, length_split, List.length_cons, List.map_cons, List.sum_cons]
      omega
  rw [hlength, Nat.add_eq_left, List.sum_eq_zero_iff_forall_eq_nat]
  simp only [List.mem_map, forall_exists_index, and_imp, forall_apply_eq_imp_iff₂, List.count_eq_zero]

theorem flatMap_split_eq {separator : Char} {texts : List String} (h : ∀ t ∈ texts, separator ∉ t.toList) :
    texts.flatMap (split separator) = texts := by
  have hone : ∀ t ∈ texts, split separator t = [t] := fun t ht => split_of_not_mem (h t ht)
  rw [List.flatMap_congr hone]
  exact List.flatMap_singleton' texts

end StateTraces.Text
