import Mathlib.Data.List.Induction
import Mathlib.Data.List.Nodup

/-
The order inside a list: what stands before each element, and which elements are mentioned first.
Lists with the same first mentions stay so when they are joined, repeated or replaced element by
element.
-/

namespace StateTraces

variable {α β : Type}

/-! ## Elements and what stands before them -/

/-- Every element of a list with the elements before it. -/
def splits : List α → List (List α × α)
  | [] => []
  | x :: xs => ([], x) :: (splits xs).map fun p => (x :: p.1, p.2)

theorem mem_splits {xs before : List α} {x : α} :
    (before, x) ∈ splits xs ↔ ∃ after, xs = before ++ x :: after := by
  induction xs generalizing before with
  | nil => simp [splits]
  | cons y ys ih =>
    simp only [splits, List.mem_cons, Prod.mk.injEq, List.mem_map, Prod.exists]
    constructor
    · rintro (⟨rfl, rfl⟩ | ⟨b, e, hb, rfl, rfl⟩)
      · exact ⟨ys, rfl⟩
      · obtain ⟨after, rfl⟩ := ih.1 hb
        exact ⟨after, rfl⟩
    · rintro ⟨after, h⟩
      cases before with
      | nil => simp only [List.nil_append, List.cons.injEq] at h; exact .inl ⟨rfl, h.1.symm⟩
      | cons b before =>
        simp only [List.cons_append, List.cons.injEq] at h
        obtain ⟨rfl, rfl⟩ := h
        exact .inr ⟨before, x, ih.2 ⟨after, rfl⟩, rfl, rfl⟩

theorem map_snd_splits : ∀ xs : List α, (splits xs).map Prod.snd = xs
  | [] => rfl
  | x :: xs => by simp [splits, Function.comp_def, map_snd_splits xs]

theorem mem_of_mem_splits {xs : List α} {p : List α × α} (h : p ∈ splits xs) : p.2 ∈ xs := by
  rw [← map_snd_splits xs]; exact List.mem_map_of_mem h

theorem nodup_splits {xs : List α} (h : xs.Nodup) : (splits xs).Nodup := by
  rw [← map_snd_splits xs] at h
  exact h.of_map

theorem splits_append (xs ys : List α) :
    splits (xs ++ ys) = splits xs ++ (splits ys).map fun p => (xs ++ p.1, p.2) := by
  induction xs with
  | nil => simp [splits]
  | cons x xs ih => simp [splits, ih]

theorem splits_map (f : α → β) (xs : List α) : splits (xs.map f) = (splits xs).map fun p => (p.1.map f, f p.2) := by
  induction xs with
  | nil => rfl
  | cons x xs ih => simp [splits, ih]

/-- What stands before each position of a list. -/
theorem splits_eq_finRange (xs : List α) :
    splits xs = (List.finRange xs.length).map fun i : Fin xs.length => (xs.take i, xs[i]) := by
  induction xs with
  | nil => rfl
  | cons x xs ih =>
    have hrange : List.finRange (x :: xs).length = 0 :: (List.finRange xs.length).map Fin.succ := List.finRange_succ
    rw [splits, ih, hrange, List.map_cons, List.map_map, List.map_map]
    rfl

/-- Of two elements of a list, the first one stands before the second. -/
theorem pairwise_splits (l : List α) : l.Pairwise fun a b => ∃ before, (before, b) ∈ splits l ∧ a ∈ before := by
  induction l with
  | nil => exact .nil
  | cons x xs ih =>
    have hcons : ∀ {before b}, (before, b) ∈ splits xs → (x :: before, b) ∈ splits (x :: xs) := fun h =>
      List.mem_cons_of_mem _ (List.mem_map.2 ⟨_, h, rfl⟩)
    refine .cons (fun b hb => ?_) (ih.imp ?_)
    · obtain ⟨before, after, rfl⟩ := List.append_of_mem hb
      exact ⟨x :: before, hcons (mem_splits.2 ⟨after, rfl⟩), List.mem_cons_self ..⟩
    · rintro a b ⟨before, hb, ha⟩
      exact ⟨x :: before, hcons hb, List.mem_cons_of_mem x ha⟩

/-! ## Replacing elements -/

theorem flatMap_filter (p : α → Bool) (f : α → List β) (l : List α) :
    (l.filter p).flatMap f = l.flatMap fun a => if p a then f a else [] := by
  induction l with
  | nil => rfl
  | cons a l ih => by_cases h : p a <;> simp [h, ih]

theorem flatMap_const (l : List α) (m : List β) :
    (l.flatMap fun _ => m) = (List.replicate l.length m).flatten := by
  rw [List.flatMap_def, List.map_const']

/-- Only one element of a list without repetitions is replaced by anything. -/
theorem flatMap_if_eq [DecidableEq α] {l : List α} (h : l.Nodup) (a : α) (f : α → List β) :
    (l.flatMap fun b => if b = a then f b else []) = if a ∈ l then f a else [] := by
  induction l with
  | nil => rfl
  | cons b l ih =>
    obtain ⟨hb, hnd⟩ := List.nodup_cons.1 h
    rw [List.flatMap_cons, ih hnd]
    by_cases he : b = a
    · subst he; simp [hb]
    · simp [he, Ne.symm he]

/-! ## First mentions -/

section Mention

variable [BEq α] [LawfulBEq α]

theorem eraseDups_filter (p : α → Bool) : ∀ l : List α, (l.filter p).eraseDups = l.eraseDups.filter p
  | [] => rfl
  | a :: l => by
    have ih := eraseDups_filter p (l.filter fun b => !b == a)
    rw [List.eraseDups_cons]
    by_cases hp : p a = true
    · rw [List.filter_cons_of_pos hp, List.filter_cons_of_pos hp, List.eraseDups_cons, ← ih,
        List.filter_filter, List.filter_filter]
      simp only [Bool.and_comm]
    · rw [List.filter_cons_of_neg hp, List.filter_cons_of_neg hp, ← ih, List.filter_filter]
      -- what passes the filter is not the head, which does not
      congr 1
      refine List.filter_congr fun b _ => ?_
      by_cases hb : b = a
      · subst hb; simp [hp]
      · simp [hb]
termination_by l => l.length
decreasing_by simpa using Nat.lt_succ_of_le (List.length_filter_le ..)

theorem eraseDups_append_singleton (l : List α) (a : α) [DecidableEq α] :
    (l ++ [a]).eraseDups = if a ∈ l then l.eraseDups else l.eraseDups ++ [a] := by
  rw [List.eraseDups_append]
  by_cases h : a ∈ l
  · simp [List.removeAll, h]
  · simp [List.removeAll, h, List.eraseDups_cons]

theorem nodup_eraseDups : ∀ l : List α, l.eraseDups.Nodup
  | [] => List.nodup_nil
  | a :: l => by
    rw [List.eraseDups_cons]
    refine List.nodup_cons.2 ⟨fun ha => ?_, nodup_eraseDups _⟩
    simpa using (List.mem_filter.1 (List.mem_eraseDups.1 ha)).2
termination_by l => l.length
decreasing_by simpa using Nat.lt_succ_of_le (List.length_filter_le ..)

theorem eraseDups_of_nodup {l : List α} (h : l.Nodup) : l.eraseDups = l := by
  induction l with
  | nil => rfl
  | cons a l ih =>
    obtain ⟨ha, hnd⟩ := List.nodup_cons.1 h
    have hkeep : l.filter (fun b => !b == a) = l :=
      List.filter_eq_self.2 fun b hb => by simpa using fun he : b = a => ha (he ▸ hb)
    rw [List.eraseDups_cons, hkeep, ih hnd]

/-- The second list has the elements of the first one, each once, in the order in which they are seen there. -/
structure FirstSeen (all found : List α) : Prop where
  nodup : found.Nodup
  mem_iff : ∀ a, a ∈ found ↔ a ∈ all
  order : found.Pairwise fun a b => all.idxOf a < all.idxOf b

theorem firstSeen_eraseDups [DecidableEq α] (l : List α) : FirstSeen l l.eraseDups := by
  refine ⟨nodup_eraseDups l, fun a => List.mem_eraseDups, ?_⟩
  induction l using List.reverseRecOn with
  | nil => exact .nil
  | append_singleton l a ih =>
    have hold : l.eraseDups.Pairwise fun b c => (l ++ [a]).idxOf b < (l ++ [a]).idxOf c :=
      ih.imp_of_mem fun hb hc hlt => by
        rwa [List.idxOf_append_of_mem (List.mem_eraseDups.1 hb), List.idxOf_append_of_mem (List.mem_eraseDups.1 hc)]
    rw [eraseDups_append_singleton]
    split_ifs with ha
    · exact hold
    · refine List.pairwise_append.2 ⟨hold, List.pairwise_singleton .., fun b hb c hc => ?_⟩
      obtain rfl := List.mem_singleton.1 hc
      have hlt : l.idxOf b < l.length := List.idxOf_lt_length_of_mem (List.mem_eraseDups.1 hb)
      rw [List.idxOf_append_of_mem (List.mem_eraseDups.1 hb), List.idxOf_append_of_notMem ha]
      omega

/-- Renaming that keeps different elements apart keeps their first mentions. -/
theorem eraseDups_map [BEq β] [LawfulBEq β] (f : α → β) :
    ∀ l : List α, (∀ a ∈ l, ∀ b ∈ l, f a = f b → a = b) → (l.map f).eraseDups = l.eraseDups.map f
  | [], _ => rfl
  | a :: l, h => by
    have hrest : ∀ b ∈ l.filter (fun b => !b == a), b ∈ a :: l := fun b hb =>
      List.mem_cons_of_mem a (List.mem_filter.1 hb).1
    have ih := eraseDups_map f (l.filter fun b => !b == a) fun b hb c hc => h b (hrest b hb) c (hrest c hc)
    have hsame : ∀ b ∈ l, ((fun c => !c == f a) ∘ f) b = !b == a := by
      intro b hb
      have hiff : f b = f a ↔ b = a :=
        ⟨h b (List.mem_cons_of_mem a hb) a (List.mem_cons_self ..), congrArg f⟩
      rw [Function.comp_apply, Bool.eq_iff_iff]
      simp [hiff]
    rw [List.map_cons, List.eraseDups_cons, List.eraseDups_cons, List.map_cons, List.filter_map,
      List.filter_congr hsame, ih]
termination_by l => l.length
decreasing_by simpa using Nat.lt_succ_of_le (List.length_filter_le ..)

/-- Two lists mention the same elements in the same order, repetitions apart. -/
def SameMentions (l m : List α) : Prop := l.eraseDups = m.eraseDups

namespace SameMentions

omit [LawfulBEq α] in
theorem refl (l : List α) : SameMentions l l := rfl

omit [LawfulBEq α] in
theorem trans {l m n : List α} (h : SameMentions l m) (h' : SameMentions m n) : SameMentions l n :=
  Eq.trans h h'

theorem mem_iff {l m : List α} (h : SameMentions l m) {a : α} : a ∈ l ↔ a ∈ m := by
  rw [← List.mem_eraseDups, h, List.mem_eraseDups]

theorem append {l l' m m' : List α} (h : SameMentions l l') (h' : SameMentions m m') :
    SameMentions (l ++ m) (l' ++ m') := by
  have hnew : m.removeAll l = m.removeAll l' :=
    List.filter_congr fun a _ => by simp [h.mem_iff]
  unfold SameMentions at *
  rw [List.eraseDups_append, List.eraseDups_append, h, hnew]
  unfold List.removeAll
  rw [eraseDups_filter, eraseDups_filter, h']

/-- What was mentioned before adds nothing. -/
theorem append_of_subset {l m : List α} (h : m ⊆ l) : SameMentions (l ++ m) l := by
  have hnil : m.removeAll l = [] := List.filter_eq_nil_iff.2 fun a ha => by simpa using h ha
  rw [SameMentions, List.eraseDups_append, hnil, List.eraseDups_nil, List.append_nil]

theorem flatten_replicate (l : List α) : ∀ n, SameMentions (List.replicate (n + 1) l).flatten l
  | 0 => by simp [SameMentions]
  | n + 1 => by
    rw [List.replicate_succ, List.flatten_cons]
    exact ((refl l).append (flatten_replicate l n)).trans (append_of_subset (List.Subset.refl l))

theorem flatMap {f g : β → List α} {l : List β} (h : ∀ b ∈ l, SameMentions (f b) (g b)) :
    SameMentions (l.flatMap f) (l.flatMap g) := by
  induction l with
  | nil => rfl
  | cons b l ih =>
    rw [List.flatMap_cons, List.flatMap_cons]
    exact (h b (List.mem_cons_self ..)).append (ih fun c hc => h c (List.mem_cons_of_mem _ hc))

end SameMentions

end Mention

end StateTraces
