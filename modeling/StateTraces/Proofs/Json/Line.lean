import StateTraces.Proofs.Json.Layout

/-
Values on one line. Whatever their texts hold, no control character is written, so the line is not broken, and
the value is read back from it.
-/

namespace StateTraces.Json

/-- No control characters. -/
def Visible (cs : List Char) : Prop := ∀ c ∈ cs, 0x20 ≤ c.toNat

-- Looks at the text only: characters are finitely many, and another instance would go through all of them.
instance : DecidablePred Visible := fun cs => List.decidableBAll (fun c : Char => 0x20 ≤ c.toNat) cs

theorem visible_cons {c : Char} {cs : List Char} (h : 0x20 ≤ c.toNat) (hmore : Visible cs) : Visible (c :: cs) :=
  List.forall_mem_cons.2 ⟨h, hmore⟩

theorem Visible.append {cs more : List Char} (h : Visible cs) (hmore : Visible more) : Visible (cs ++ more) :=
  List.forall_mem_append.2 ⟨h, hmore⟩

theorem visible_unit {n : Nat} (h : n < 0x10000) : Visible ('\\' :: 'u' :: Text.hex 4 n) := by
  obtain ⟨w, x, y, z, hhex, hbare, -⟩ := exists_hex_four h
  rw [hhex]
  exact visible_cons (by decide) (visible_cons (by decide) fun c hc => (hbare c hc).toNat_ge)

/-- A control character is written as an escape. -/
theorem visible_charText (alphabet : Alphabet) (c : Char) : Visible (charText alphabet c) := by
  have hescape : ∀ letter : Char, 0x20 ≤ letter.toNat → Visible ['\\', letter] := fun letter h =>
    visible_cons (by decide) (visible_cons h (by decide))
  unfold charText
  split_ifs with hquote hbackslash hnewline hreturn htab hfeed hback hplain
  · exact hescape _ (by decide)
  · exact hescape _ (by decide)
  · exact hescape _ (by decide)
  · exact hescape _ (by decide)
  · exact hescape _ (by decide)
  · exact hescape _ (by decide)
  · exact hescape _ (by decide)
  · have hvalid : c.toNat < 0xD800 ∨ 0xDFFF < c.toNat ∧ c.toNat < 0x110000 := c.valid
    unfold unitEscape
    dsimp only
    split_ifs with hsmall
    · exact visible_unit hsmall
    · exact (visible_unit (by omega)).append (visible_unit (by omega))
  · exact visible_cons (Nat.le_of_not_lt fun h => hplain (.inl h)) (by decide)

theorem visible_strChars (alphabet : Alphabet) (s : String) : Visible (strChars alphabet s) := by
  refine visible_cons (by decide) (Visible.append (fun c hc => ?_) (by decide))
  obtain ⟨x, -, hx⟩ := List.mem_flatMap.1 hc
  exact visible_charText alphabet x c hx

theorem visible_decimal (n : Int) : Visible (Text.decimal n) := by
  have hdigits : Visible (Nat.toDigits 10 n.natAbs) := fun c hc => by
    have hdigit := isDigit_toDigits hc
    simp only [Char.isDigit, Bool.and_eq_true, decide_eq_true_eq] at hdigit
    have hlow : (48 : UInt32) ≤ c.val := hdigit.1
    exact Nat.le_trans (by decide) (UInt32.le_iff_toNat_le.1 hlow)
  unfold Text.decimal
  split_ifs
  · exact visible_cons (by decide) hdigits
  · exact hdigits

mutual

/-- A value on one line has no control characters. -/
theorem visible_lineChars (alphabet : Alphabet) {j : Json} (h : Plain j) : Visible (lineChars alphabet j) := by
  match j, h with
  | .null, _ => exact (by decide : Visible "null".toList)
  | .bool true, _ => exact (by decide : Visible "true".toList)
  | .bool false, _ => exact (by decide : Visible "false".toList)
  | .int n, _ => exact visible_decimal n
  | .str s, _ => exact visible_strChars alphabet s
  | .arr [], _ => exact (by decide : Visible ['[', ']'])
  | .obj [], _ => exact (by decide : Visible ['\x7b', '\x7d'])
  | .arr (j :: js), .arr hitems =>
    have hfirst := visible_lineChars alphabet (hitems j List.mem_cons_self)
    have hmore := visible_moreItems alphabet fun i hi => hitems i (List.mem_cons_of_mem j hi)
    exact visible_cons (by decide) (hfirst.append hmore)
  | .obj ((k, j) :: ms), .obj _ hvalues =>
    have hfirst := visible_lineChars alphabet (hvalues (k, j) List.mem_cons_self)
    have hmore := visible_moreMembers alphabet fun m hm => hvalues m (List.mem_cons_of_mem (k, j) hm)
    exact visible_cons (by decide) (((visible_strChars alphabet k).append
      (visible_cons (by decide) (visible_cons (by decide) hfirst))).append hmore)

theorem visible_moreItems (alphabet : Alphabet) {js : List Json} (h : ∀ j ∈ js, Plain j) :
    Visible (moreItems alphabet js) := by
  match js, h with
  | [], _ => exact (by decide : Visible [']'])
  | j :: js, h =>
    have hitem := visible_lineChars alphabet (h j List.mem_cons_self)
    have hmore := visible_moreItems alphabet fun i hi => h i (List.mem_cons_of_mem j hi)
    exact visible_cons (by decide) (visible_cons (by decide) (hitem.append hmore))

theorem visible_moreMembers (alphabet : Alphabet) {ms : Table String Json} (h : ∀ m ∈ ms, Plain m.2) :
    Visible (moreMembers alphabet ms) := by
  match ms, h with
  | [], _ => exact (by decide : Visible ['\x7d'])
  | (k, j) :: ms, h =>
    have hvalue := visible_lineChars alphabet (h (k, j) List.mem_cons_self)
    have hmore := visible_moreMembers alphabet fun m hm => h m (List.mem_cons_of_mem (k, j) hm)
    exact visible_cons (by decide) (visible_cons (by decide) (((visible_strChars alphabet k).append
      (visible_cons (by decide) (visible_cons (by decide) hvalue))).append hmore))

end

/-- A value is read back from its line. -/
theorem read?_line (alphabet : Alphabet) {j : Json} (h : Plain j) : read? (j.line alphabet) = some j := by
  have hread := read?_writes (writes_lineChars alphabet h) gaps_nil
  rwa [List.append_nil] at hread

end StateTraces.Json
