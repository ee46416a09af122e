import Mathlib.Data.List.Forall2

/-
Actions that may fail, done for the elements of a list one after another. The first failure is the answer;
without one there is an answer for each element.
-/

namespace StateTraces

variable {α β ε : Type} {l : List α}

theorem mapM_ok_iff {f : α → Except ε β} {r : List β} :
    l.mapM f = .ok r ↔ List.Forall₂ (fun a b => f a = .ok b) l r := by
  induction l generalizing r with
  | nil => cases r <;> simp [pure, Except.pure]
  | cons a l ih =>
    rw [List.mapM_cons]
    cases hfirst : f a with
    | error e => cases r <;> simp [hfirst, bind, Except.bind]
    | ok b =>
      cases hmore : l.mapM f with
      | error e => cases r <;> simp [hfirst, hmore, ← ih, bind, Except.bind]
      | ok bs => cases r <;> simp [hfirst, hmore, ← ih, bind, Except.bind, pure, Except.pure]

theorem exists_of_mapM_error {f : α → Except ε β} {e : ε} (h : l.mapM f = .error e) : ∃ a ∈ l, f a = .error e := by
  induction l with
  | nil => cases h
  | cons a l ih =>
    rw [List.mapM_cons] at h
    cases hfirst : f a with
    | error e' =>
      rw [hfirst] at h
      cases h
      exact ⟨a, List.mem_cons_self, hfirst⟩
    | ok b =>
      cases hmore : l.mapM f with
      | error e' =>
        rw [hfirst, hmore] at h
        cases h
        obtain ⟨a', ha', hfail⟩ := ih hmore
        exact ⟨a', List.mem_cons_of_mem a ha', hfail⟩
      | ok bs =>
        rw [hfirst, hmore] at h
        cases h

/-- An action that succeeds for each element succeeds for the list, and what holds of its answers does so one
by one. -/
theorem exists_mapM_ok {f : α → Except ε β} {R : α → β → Prop} (h : ∀ a ∈ l, ∃ b, f a = .ok b ∧ R a b) :
    ∃ r, l.mapM f = .ok r ∧ List.Forall₂ R l r := by
  cases hmap : l.mapM f with
  | error e =>
    obtain ⟨a, ha, hfail⟩ := exists_of_mapM_error hmap
    obtain ⟨b, hb, -⟩ := h a ha
    rw [hb] at hfail
    cases hfail
  | ok r =>
    have hboth := (List.forall₂_and_left l r).2 ⟨h, mapM_ok_iff.1 hmap⟩
    refine ⟨r, rfl, hboth.imp fun a b hab => ?_⟩
    obtain ⟨⟨b', hb', hR⟩, hb⟩ := hab
    obtain rfl : b' = b := Except.ok.inj (hb'.symm.trans hb)
    exact hR

theorem exists_mapM_map_ok {γ : Type} {f : α → Except ε β} {g : List β → γ} (h : ∀ a ∈ l, ∃ b, f a = .ok b) :
    ∃ c, (do let r ← l.mapM f; pure (g r)) = .ok c := by
  obtain ⟨r, hr, -⟩ := exists_mapM_ok (R := fun _ _ => True) fun a ha => (h a ha).imp fun b hb => ⟨hb, trivial⟩
  exact ⟨g r, by rw [hr]; rfl⟩

/-- Where every failure is the same one, it is the answer as soon as an element fails. -/
theorem mapM_eq_error {f : α → Except ε β} {e : ε} (hsame : ∀ a ∈ l, ∀ e', f a = .error e' → e' = e) {a : α}
    (ha : a ∈ l) (hfail : f a = .error e) : l.mapM f = .error e := by
  cases hmap : l.mapM f with
  | error e' =>
    obtain ⟨a', ha', hfail'⟩ := exists_of_mapM_error hmap
    rw [hsame a' ha' e' hfail']
  | ok r =>
    obtain ⟨i, hi, rfl⟩ := List.getElem_of_mem ha
    have hr := (mapM_ok_iff.1 hmap).get hi (by rw [← (mapM_ok_iff.1 hmap).length_eq]; exact hi)
    simp only [List.get_eq_getElem, hfail] at hr
    cases hr

/-- Filtering keeps what the action answers. -/
theorem filterMapM_eq {f g : α → Except ε (Option β)} (h : ∀ a, f a = g a) (l : List α) :
    l.filterMapM f = (l.mapM g).map (·.filterMap id) := by
  induction l with
  | nil => rfl
  | cons a l ih =>
    rw [List.filterMapM_cons, List.mapM_cons, ih, h]
    cases g a with
    | error e => rfl
    | ok b? => cases b? <;> cases l.mapM g <;> rfl

/-- What an action gives for a list it gives for the entries. -/
theorem mem_of_mapM {f : α → Except ε β} {r : List β} (h : l.mapM f = .ok r) {b : β} (hb : b ∈ r) :
    ∃ a ∈ l, f a = .ok b := by
  obtain ⟨i, hi, rfl⟩ := List.getElem_of_mem hb
  have hall := mapM_ok_iff.1 h
  have hi' : i < l.length := hall.length_eq ▸ hi
  exact ⟨l[i], List.getElem_mem hi', hall.get hi' hi⟩

theorem mem_of_filterMapM {f : α → Except ε (Option β)} {r : List β} (h : l.filterMapM f = .ok r) {b : β}
    (hb : b ∈ r) : ∃ a ∈ l, f a = .ok (some b) := by
  rw [filterMapM_eq fun _ => rfl] at h
  cases hmap : l.mapM f with
  | error e => rw [hmap] at h; cases h
  | ok bs =>
    rw [hmap] at h
    cases h
    obtain ⟨b?, hb?, hsome⟩ := List.mem_filterMap.1 hb
    obtain rfl : b? = some b := hsome
    exact mem_of_mapM hmap hb?

theorem map_ok_iff {x : Except ε α} {f : α → β} {b : β} : x.map f = .ok b ↔ ∃ a, x = .ok a ∧ f a = b := by
  cases x <;> simp [Except.map]

/-- What every step preserves holds at the end. -/
theorem foldlM_preserves {P : β → Prop} {f : β → α → Except ε β} (hstep : ∀ b a b', P b → f b a = .ok b' → P b')
    {b r : β} (hb : P b) (h : l.foldlM f b = .ok r) : P r := by
  induction l generalizing b with
  | nil =>
    obtain rfl := Except.ok.inj h
    exact hb
  | cons a l ih =>
    rw [List.foldlM_cons] at h
    cases hfirst : f b a with
    | error e => rw [hfirst] at h; cases h
    | ok b' =>
      rw [hfirst] at h
      exact ih (hstep b a b' hb hfirst) h

end StateTraces
