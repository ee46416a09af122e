import StateTraces.Files.Pattern

/-
The texts that fit a pattern. The elements are told one by one: a run stands for any characters, and any
other element for one character that it admits. The function that checks a text from its end, for all of its
rests at once, accepts exactly the texts that elements make up in this way.
-/

namespace StateTraces.Files.PatternItem

/-- The elements, one after another, make up the characters. -/
inductive Makes : List PatternItem → List Char → Prop where
  | done : Makes [] []
  | one {item : PatternItem} {items : List PatternItem} {c : Char} {cs : List Char} (hitem : item.admits c = true)
      (hmore : Makes items cs) : Makes (item :: items) (c :: cs)
  | run {items : List PatternItem} (skipped : List Char) {cs : List Char} (hmore : Makes items cs) :
      Makes (.anyRun :: items) (skipped ++ cs)

variable {item : PatternItem} {items : List PatternItem} {c : Char} {cs : List Char}

/-! ## The check, character by character -/

theorem fitsRests_ne_anyRun (h : item ≠ .anyRun) (items : List PatternItem) (cs : List Char) :
    fitsRests (item :: items) cs =
      List.zipWith (fun c fit => item.admits c && fit) cs ((fitsRests items cs).drop 1) ++ [false] := by
  cases item <;> first | rfl | contradiction

/-- The answers for the empty rest. -/
theorem fitsRests_nil (items : List PatternItem) : fitsRests items [] = [fits items []] := by
  induction items with
  | nil => rfl
  | cons item items ih =>
    by_cases hrun : item = .anyRun
    · subst hrun
      rw [fits, fitsRests, ih]
      rfl
    · rw [fits, fitsRests_ne_anyRun hrun]
      rfl

/-- The answers for the rests come after the answer for the whole text. -/
theorem fitsRests_cons (items : List PatternItem) (c : Char) (cs : List Char) :
    fitsRests items (c :: cs) = fits items (c :: cs) :: fitsRests items cs := by
  induction items generalizing c cs with
  | nil => rfl
  | cons item items ih =>
    by_cases hrun : item = .anyRun
    · subst hrun
      rw [fits, fitsRests, ih]
      rfl
    · have hrest : ∃ more, fitsRests items cs = fits items cs :: more := by
        cases cs with
        | nil => exact ⟨[], fitsRests_nil items⟩
        | cons d ds => exact ⟨_, ih d ds⟩
      obtain ⟨more, hmore⟩ := hrest
      rw [fits, fitsRests_ne_anyRun hrun, ih, List.drop_one, List.tail_cons, fitsRests_ne_anyRun hrun, hmore]
      rfl

theorem fitsRests_eq_cons (items : List PatternItem) (cs : List Char) :
    ∃ more, fitsRests items cs = fits items cs :: more := by
  cases cs with
  | nil => exact ⟨[], fitsRests_nil items⟩
  | cons c cs => exact ⟨_, fitsRests_cons items c cs⟩

theorem fits_nil : fits [] cs = cs.isEmpty := by cases cs <;> rfl

theorem fits_one_nil (h : item ≠ .anyRun) : fits (item :: items) [] = false := by
  rw [fits, fitsRests_ne_anyRun h]
  rfl

theorem fits_one_cons (h : item ≠ .anyRun) : fits (item :: items) (c :: cs) = (item.admits c && fits items cs) := by
  obtain ⟨more, hmore⟩ := fitsRests_eq_cons items cs
  rw [fits, fitsRests_ne_anyRun h, fitsRests_cons, List.drop_one, List.tail_cons, hmore]
  rfl

theorem fits_run_nil : fits (.anyRun :: items) [] = fits items [] := by
  rw [fits, fitsRests, fitsRests_nil]
  exact Bool.or_false _

/-- A run takes nothing, or one character more. -/
theorem fits_run_cons : fits (.anyRun :: items) (c :: cs) = (fits items (c :: cs) || fits (.anyRun :: items) cs) := by
  rw [fits, fitsRests, fitsRests_cons]
  rfl

/-! ## What fits -/

theorem makes_nil_iff : Makes [] cs ↔ cs = [] := ⟨fun h => by cases h; rfl, fun h => h ▸ .done⟩

theorem makes_one_iff (h : item ≠ .anyRun) :
    Makes (item :: items) cs ↔ ∃ d ds, cs = d :: ds ∧ item.admits d = true ∧ Makes items ds := by
  constructor
  · intro hmakes
    cases hmakes with
    | one hitem hmore => exact ⟨_, _, rfl, hitem, hmore⟩
    | run => exact absurd rfl h
  · rintro ⟨d, ds, rfl, hitem, hmore⟩
    exact .one hitem hmore

theorem makes_run_iff : Makes (.anyRun :: items) cs ↔ ∃ skipped rest, cs = skipped ++ rest ∧ Makes items rest := by
  constructor
  · intro hmakes
    cases hmakes with
    | one hitem hmore => cases hitem
    | run skipped hmore => exact ⟨skipped, _, rfl, hmore⟩
  · rintro ⟨skipped, rest, rfl, hmore⟩
    exact .run skipped hmore

/-- A text passes the check exactly if the elements make it up. -/
theorem fits_iff_makes : fits items cs = true ↔ Makes items cs := by
  induction items generalizing cs with
  | nil => rw [fits_nil, List.isEmpty_iff, makes_nil_iff]
  | cons item items ih =>
    by_cases hrun : item = .anyRun
    · subst hrun
      induction cs with
      | nil =>
        rw [fits_run_nil, ih, makes_run_iff]
        constructor
        · exact fun h => ⟨[], [], rfl, h⟩
        · rintro ⟨skipped, rest, hnil, h⟩
          rw [(List.append_eq_nil_iff.1 hnil.symm).2] at h
          exact h
      | cons c cs ihcs =>
        rw [fits_run_cons, Bool.or_eq_true, ih, ihcs, makes_run_iff, makes_run_iff]
        constructor
        · rintro (h | ⟨skipped, rest, rfl, h⟩)
          · exact ⟨[], c :: cs, rfl, h⟩
          · exact ⟨c :: skipped, rest, rfl, h⟩
        · rintro ⟨_ | ⟨_, skipped⟩, rest, hsplit, h⟩
          · rw [hsplit]; exact .inl h
          · cases hsplit; exact .inr ⟨skipped, rest, rfl, h⟩
    · rw [makes_one_iff hrun]
      cases cs with
      | nil => simp [fits_one_nil hrun]
      | cons c cs =>
        rw [fits_one_cons hrun, Bool.and_eq_true, ih]
        constructor
        · rintro ⟨hitem, hmore⟩
          exact ⟨c, cs, rfl, hitem, hmore⟩
        · rintro ⟨_, _, ⟨⟩, hitem, hmore⟩
          exact ⟨hitem, hmore⟩

end StateTraces.Files.PatternItem
