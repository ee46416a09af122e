import Mathlib.Data.Nat.Digits.Defs
import StateTraces.Json.Printer
import StateTraces.Json.Token

/-
Scalar values in JSON text. A text that was written is read back, whatever it holds, and an integer is
read back wherever nothing follows it that could belong to a number.
-/

namespace StateTraces.Json

open Text (hex)
open Token (cutBody hexValue? unit? escaped? resolve)

variable {c : Char} {cs piece rest : List Char} {n : Nat}

/-! ## Hexadecimal digits -/

theorem hex_succ {width : Nat} (h : 0 < width) (n : Nat) :
    hex (width + 1) n = hex width (n / 16) ++ [(n % 16).digitChar] := by
  unfold hex
  by_cases hn : n < 16
  · rw [Nat.toDigits_of_lt_base hn, Nat.div_eq_of_lt hn, Nat.toDigits_zero, Nat.mod_eq_of_lt hn]
    obtain ⟨k, rfl⟩ := Nat.exists_eq_succ_of_ne_zero (Nat.ne_of_gt h)
    simp [List.replicate_succ']
  · rw [Nat.toDigits_of_base_le (by decide) (Nat.le_of_not_lt hn)]
    simp

/-- A character that may stand in a text as it is. -/
structure Bare (c : Char) : Prop where
  ne_quote : c ≠ '"'
  ne_backslash : c ≠ '\\'
  toNat_ge : 0x20 ≤ c.toNat

theorem bare_digitChar : ∀ m < 16, Bare m.digitChar := by
  have hall : ∀ m < 16, m.digitChar ≠ '"' ∧ m.digitChar ≠ '\\' ∧ 0x20 ≤ m.digitChar.toNat := by decide
  exact fun m hm => ⟨(hall m hm).1, (hall m hm).2.1, (hall m hm).2.2⟩

theorem hexValue?_digitChar : ∀ m < 16, hexValue? m.digitChar = some m := by decide

/-- A UTF-16 unit has four hexadecimal digits, and they write it. -/
theorem exists_hex_four (h : n < 0x10000) :
    ∃ w x y z, hex 4 n = [w, x, y, z] ∧ (∀ digit ∈ [w, x, y, z], Bare digit) ∧ unit? w x y z = some n := by
  have hw : n / 16 / 16 / 16 < 16 := by omega
  have hx : n / 16 / 16 % 16 < 16 := by omega
  have hy : n / 16 % 16 < 16 := by omega
  have hz : n % 16 < 16 := by omega
  have hhex : hex 4 n = [(n / 16 / 16 / 16).digitChar, (n / 16 / 16 % 16).digitChar, (n / 16 % 16).digitChar,
      (n % 16).digitChar] := by
    rw [hex_succ (by decide), hex_succ (by decide), hex_succ (by decide), hex, Nat.toDigits_of_lt_base hw]
    rfl
  refine ⟨_, _, _, _, hhex, ?_, ?_⟩
  · intro digit hdigit
    simp only [List.mem_cons, List.not_mem_nil, or_false] at hdigit
    rcases hdigit with rfl | rfl | rfl | rfl
    · exact bare_digitChar _ hw
    · exact bare_digitChar _ hx
    · exact bare_digitChar _ hy
    · exact bare_digitChar _ hz
  · simp only [unit?, hexValue?_digitChar _ hw, hexValue?_digitChar _ hx, hexValue?_digitChar _ hy,
      hexValue?_digitChar _ hz, Option.bind_eq_bind, Option.bind_some, Option.pure_def, Option.some.injEq]
    omega

/-! ## Characters -/

/-- The end of a text is not inside the piece. -/
def Inside (piece : List Char) : Prop := ∀ cs, cutBody (piece ++ cs) = (cutBody cs).map fun r => (piece ++ r.1, r.2)

theorem inside_nil : Inside [] := fun _ => Option.map_id'.symm

theorem Inside.append {piece' : List Char} (h : Inside piece) (h' : Inside piece') : Inside (piece ++ piece') := by
  intro cs
  rw [List.append_assoc, h, h', Option.map_map]
  simp only [Function.comp_def, List.append_assoc]

theorem inside_bare (h : ∀ c ∈ piece, Bare c) : Inside piece := by
  induction piece with
  | nil => exact inside_nil
  | cons c piece ih =>
    have hc := h c List.mem_cons_self
    have hfirst : Inside [c] := by
      intro cs
      rw [List.singleton_append, cutBody, if_neg (Nat.not_lt.2 hc.toNat_ge)]
      · rfl
      · exact fun hquote => hc.ne_quote hquote
      · exact fun _ _ hbackslash _ => hc.ne_backslash hbackslash
    exact hfirst.append (ih fun x hx => h x (List.mem_cons_of_mem c hx))

theorem inside_escape (letter : Char) : Inside ['\\', letter] := fun _ => rfl

theorem inside_unit (h : n < 0x10000) : Inside ('\\' :: 'u' :: hex 4 n) := by
  obtain ⟨w, x, y, z, hhex, hbare, -⟩ := exists_hex_four h
  rw [hhex]
  exact (inside_escape 'u').append (inside_bare hbare)

theorem resolve_bare (h : c ≠ '\\') (cs : List Char) : resolve none (c :: cs) = (resolve none cs).map (c :: ·) := by
  rw [resolve]
  · rfl
  · exact fun _ _ _ _ _ hc _ => h hc
  · exact fun _ _ hc _ => h hc

theorem resolve_escape {letter : Char} (hletter : letter ≠ 'u') (h : escaped? letter = some c) (cs : List Char) :
    resolve none (['\\', letter] ++ cs) = (resolve none cs).map (c :: ·) := by
  show resolve none ('\\' :: letter :: cs) = _
  rw [resolve, h]
  · rfl
  · exact fun _ _ _ _ _ hc _ => hletter hc

/-- A unit that is a character of its own. -/
theorem resolve_unit (h : n < 0x10000) (hlow : n < 0xD800 ∨ 0xE000 ≤ n) (cs : List Char) :
    resolve none ('\\' :: 'u' :: hex 4 n ++ cs) = (resolve none cs).map (Char.ofNat n :: ·) := by
  obtain ⟨w, x, y, z, hhex, -, hunit⟩ := exists_hex_four h
  rw [hhex]
  show resolve none ('\\' :: 'u' :: w :: x :: y :: z :: cs) = _
  rw [resolve, hunit]
  dsimp only [Option.bind_eq_bind, Option.bind_some]
  rw [if_neg (by omega), if_neg (by omega)]

/-- A high unit and the low unit that follows it are one character. -/
theorem resolve_pair {low : Nat} (hhigh : 0xD800 ≤ n ∧ n < 0xDC00) (hlow : 0xDC00 ≤ low ∧ low < 0xE000)
    (cs : List Char) : resolve none ('\\' :: 'u' :: hex 4 n ++ ('\\' :: 'u' :: hex 4 low ++ cs)) =
      (resolve none cs).map (Char.ofNat (0x10000 + (n - 0xD800) * 0x400 + (low - 0xDC00)) :: ·) := by
  obtain ⟨w, x, y, z, hhex, -, hunit⟩ := exists_hex_four (n := n) (by omega)
  obtain ⟨w', x', y', z', hhex', -, hunit'⟩ := exists_hex_four (n := low) (by omega)
  rw [hhex, hhex']
  show resolve none ('\\' :: 'u' :: w :: x :: y :: z :: '\\' :: 'u' :: w' :: x' :: y' :: z' :: cs) = _
  rw [resolve, hunit]
  dsimp only [Option.bind_eq_bind, Option.bind_some]
  -- the high unit waits, and the low one completes it
  rw [if_pos hhigh, resolve, hunit']
  dsimp only [Option.bind_eq_bind, Option.bind_some]
  rw [if_pos hlow]

/-! ## Texts -/

/-- A piece of a text that stands for a character. -/
structure StandsFor (piece : List Char) (c : Char) : Prop where
  inside : Inside piece
  resolve_eq : ∀ cs, resolve none (piece ++ cs) = (resolve none cs).map (c :: ·)

theorem standsFor_escape {letter d : Char} (hletter : letter ≠ 'u') (hc : c = d) (h : escaped? letter = some d) :
    StandsFor ['\\', letter] c := ⟨inside_escape letter, resolve_escape hletter (hc ▸ h)⟩

theorem standsFor_bare (h : Bare c) : StandsFor [c] c :=
  ⟨inside_bare fun _ hx => List.mem_singleton.1 hx ▸ h, resolve_bare h.ne_backslash⟩

theorem standsFor_unitEscape (c : Char) : StandsFor (unitEscape c) c := by
  have hvalid : c.toNat < 0xD800 ∨ 0xDFFF < c.toNat ∧ c.toNat < 0x110000 := c.valid
  unfold unitEscape
  by_cases hsmall : c.toNat < 0x10000
  · dsimp only
    rw [if_pos hsmall]
    refine ⟨inside_unit hsmall, fun cs => ?_⟩
    rw [resolve_unit hsmall (by omega), Char.ofNat_toNat]
  · dsimp only
    rw [if_neg hsmall]
    refine ⟨(inside_unit (by omega)).append (inside_unit (by omega)), fun cs => ?_⟩
    have hcode : 0x10000 + (0xD800 + (c.toNat - 0x10000) / 0x400 - 0xD800) * 0x400 +
        (0xDC00 + (c.toNat - 0x10000) % 0x400 - 0xDC00) = c.toNat := by omega
    rw [List.append_assoc, resolve_pair (by omega) (by omega), hcode, Char.ofNat_toNat]

theorem standsFor_charText (alphabet : Alphabet) (c : Char) : StandsFor (charText alphabet c) c := by
  unfold charText
  split_ifs with hquote hbackslash hnewline hreturn htab hfeed hback hplain
  · exact standsFor_escape (by decide) hquote rfl
  · exact standsFor_escape (by decide) hbackslash rfl
  · exact standsFor_escape (by decide) hnewline rfl
  · exact standsFor_escape (by decide) hreturn rfl
  · exact standsFor_escape (by decide) htab rfl
  · exact standsFor_escape (by decide) hfeed rfl
  · exact standsFor_escape (by decide) hback rfl
  · exact standsFor_unitEscape c
  · exact standsFor_bare ⟨hquote, hbackslash, Nat.le_of_not_lt fun h => hplain (.inl h)⟩

theorem cutBody_text (alphabet : Alphabet) (text rest : List Char) :
    cutBody (text.flatMap (charText alphabet) ++ '"' :: rest) = some (text.flatMap (charText alphabet), rest) := by
  induction text with
  | nil => rfl
  | cons c text ih =>
    rw [List.flatMap_cons, List.append_assoc, (standsFor_charText alphabet c).inside, ih]
    rfl

theorem resolve_text (alphabet : Alphabet) (text : List Char) :
    resolve none (text.flatMap (charText alphabet)) = some text := by
  induction text with
  | nil => rfl
  | cons c text ih =>
    rw [List.flatMap_cons, (standsFor_charText alphabet c).resolve_eq, ih]
    rfl

/-- A text that was written is read back, whatever follows it. -/
theorem read?_strChars (alphabet : Alphabet) (s : String) (rest : List Char) :
    Token.read? (strChars alphabet s ++ rest) = some (.scalar (.str s), rest) := by
  have hcut : strChars alphabet s ++ rest = '"' :: (s.toList.flatMap (charText alphabet) ++ '"' :: rest) := by
    simp [strChars]
  rw [hcut, Token.read?, if_pos rfl, cutBody_text]
  dsimp only [Option.bind_eq_bind, Option.bind_some]
  rw [resolve_text]
  simp

/-! ## Integers -/

/-- Nothing follows that could belong to a number. -/
def Ends (rest : List Char) : Prop :=
  ∀ c ∈ rest.head?, c.isDigit = false ∧ c ≠ '.' ∧ c ≠ 'e' ∧ c ≠ 'E'

theorem digits_append {ds : List Char} (hds : ∀ d ∈ ds, d.isDigit = true) (h : Ends rest) :
    Token.digits (ds ++ rest) = (ds, rest) := by
  have hhead : ∀ c ∈ rest.head?, c.isDigit = false := fun c hc => (h c hc).1
  have htake : rest.takeWhile Char.isDigit = [] := by
    cases rest with
    | nil => rfl
    | cons c rest => rw [List.takeWhile_cons_of_neg (by simpa using hhead c rfl)]
  have hdrop : rest.dropWhile Char.isDigit = rest := by
    cases rest with
    | nil => rfl
    | cons c rest => rw [List.dropWhile_cons_of_neg (by simpa using hhead c rfl)]
  rw [Token.digits, List.takeWhile_append_of_pos hds, List.dropWhile_append_of_pos hds, htake, hdrop, List.append_nil]

theorem isDigit_toDigits {d : Char} (h : d ∈ Nat.toDigits 10 n) : d.isDigit = true :=
  Nat.isDigit_of_mem_toDigits (by decide) (by decide) h

theorem exists_toDigits (n : Nat) : ∃ d ds, Nat.toDigits 10 n = d :: ds ∧ d.isDigit = true := by
  obtain ⟨d, ds, hdigits⟩ := List.exists_cons_of_ne_nil (Nat.toDigits_ne_nil (n := n) (b := 10))
  exact ⟨d, ds, hdigits, isDigit_toDigits (n := n) (hdigits ▸ List.mem_cons_self)⟩

/-- The digits of a number do not start with a zero, unless it is zero. -/
theorem head_toDigits : ∀ {n : Nat}, 0 < n → (Nat.toDigits 10 n).head? ≠ some '0' := by
  intro n
  induction n using Nat.strongRecOn with
  | ind n ih =>
    intro hn
    -- cutting off the last digit leaves the first one, until there is only one
    by_cases hsmall : n < 10
    · have hdigit : ∀ m < 10, 0 < m → m.digitChar ≠ '0' := by decide
      rw [Nat.toDigits_of_lt_base hsmall]
      exact fun h => hdigit n hsmall hn (Option.some.inj h)
    · have hhead := ih (n / 10) (by omega) (by omega)
      obtain ⟨d, ds, hdigits, -⟩ := exists_toDigits (n / 10)
      rw [Nat.toDigits_of_base_le (by decide) (Nat.le_of_not_lt hsmall), hdigits]
      rwa [hdigits] at hhead

theorem number_toDigits (n : Nat) : Token.number (Nat.toDigits 10 n) = n := by
  have hsame : ∀ ds : List Char, ∀ m, ds.foldl (fun n d => n * 10 + (d.toNat - 48)) m = Nat.ofDigitChars 10 ds m := by
    intro ds
    induction ds with
    | nil => exact fun _ => rfl
    | cons d ds ih =>
      intro m
      rw [List.foldl_cons, ih, Nat.ofDigitChars_cons, Nat.mul_comm]
      rfl
  rw [Token.number, hsame, Nat.ofDigitChars_ten_toDigits]

theorem wholePart_toDigits (n : Nat) (h : Ends rest) :
    Token.wholePart (Nat.toDigits 10 n ++ rest) = some (Nat.toDigits 10 n, rest) := by
  by_cases hzero : n = 0
  · subst hzero
    rfl
  · have hdigits : Token.digits (Nat.toDigits 10 n ++ rest) = (Nat.toDigits 10 n, rest) :=
      digits_append (fun d hd => isDigit_toDigits hd) h
    have hhead := head_toDigits (Nat.pos_of_ne_zero hzero)
    obtain ⟨d, ds, hcons, -⟩ := exists_toDigits n
    rw [hcons] at hdigits hhead ⊢
    -- a first digit other than zero leads to the branch for all digits
    rw [Token.wholePart, hdigits]
    · rfl
    · rintro cs hsame
      exact hhead (congrArg some (List.cons.inj hsame).1)

theorem fractionPart_of_ends (h : Ends rest) : Token.fractionPart rest = ([], rest) := by
  unfold Token.fractionPart
  split
  · exact absurd rfl (h '.' rfl).2.1
  · rfl

theorem exponentPart_of_ends (h : Ends rest) : Token.exponentPart rest = (none, rest) := by
  cases rest with
  | nil => rfl
  | cons c cs =>
    obtain ⟨-, -, he, hE⟩ := h c rfl
    have hmark : (c == 'e' || c == 'E') = false := by simp [he, hE]
    simp only [Token.exponentPart, hmark, Bool.false_and]
    rfl

theorem decimal_eq_cons (n : Int) : ∃ c cs, Text.decimal n = c :: cs ∧ (c = '-' ∨ c.isDigit = true) := by
  obtain ⟨d, ds, hdigits, hd⟩ := exists_toDigits n.natAbs
  unfold Text.decimal
  split_ifs
  · exact ⟨'-', _, rfl, .inl rfl⟩
  · exact ⟨d, ds, hdigits, .inr hd⟩

theorem readNumber_negative (n : Nat) (h : Ends rest) :
    Token.readNumber ('-' :: Nat.toDigits 10 n ++ rest) = some (.int (-n), rest) := by
  simp only [List.cons_append, Token.readNumber, beq_self_eq_true, if_true, wholePart_toDigits n h,
    fractionPart_of_ends h, exponentPart_of_ends h, number_toDigits, Option.bind_eq_bind, Option.bind_some]
  rfl

theorem readNumber_toDigits (n : Nat) (h : Ends rest) :
    Token.readNumber (Nat.toDigits 10 n ++ rest) = some (.int n, rest) := by
  obtain ⟨d, ds, hcons, hdigit⟩ := exists_toDigits n
  have hminus : (d == '-') = false := by
    refine beq_eq_false_iff_ne.2 fun hd => ?_
    rw [hd] at hdigit
    exact absurd hdigit (by decide)
  have hwhole := wholePart_toDigits n h
  have hnumber := number_toDigits n
  rw [hcons] at hwhole hnumber ⊢
  rw [List.cons_append] at hwhole ⊢
  simp only [Token.readNumber, hminus, Bool.false_eq_true, if_false, hwhole, fractionPart_of_ends h,
    exponentPart_of_ends h, hnumber, Option.bind_eq_bind, Option.bind_some]
  rfl

theorem readNumber_decimal (n : Int) (h : Ends rest) :
    Token.readNumber (Text.decimal n ++ rest) = some (.int n, rest) := by
  unfold Text.decimal
  split_ifs with hneg
  · rw [readNumber_negative _ h, show (-(n.natAbs : Int)) = n by omega]
  · rw [readNumber_toDigits _ h, show (n.natAbs : Int) = n by omega]

/-- No word starts like this, with a digit next. -/
theorem after?_digit {d : Char} (h : d.isDigit = true) {w : List Char × Json} (hw : w ∈ Token.words) (cs : List Char) :
    Token.after? w.1 (d :: cs) = none ∧ Token.after? w.1 ('-' :: d :: cs) = none := by
  have hfirst : ∀ w ∈ Token.words, ∃ x xs, w.1 = x :: xs ∧ x.isDigit = false ∧
      (x ≠ '-' ∨ ∃ y ys, xs = y :: ys ∧ y.isDigit = false) := by
    simp [Token.words]
  obtain ⟨x, xs, hword, hx, hminus⟩ := hfirst w hw
  have hne : ∀ y : Char, y.isDigit = false → y ≠ d := by
    rintro y hy rfl
    rw [h] at hy
    cases hy
  rw [hword]
  refine ⟨by rw [Token.after?, if_neg (hne x hx)], ?_⟩
  obtain hminus | ⟨y, ys, rfl, hy⟩ := hminus
  · rw [Token.after?, if_neg hminus]
  · rw [Token.after?]
    split_ifs
    · rw [Token.after?, if_neg (hne y hy)]
    · rfl

theorem read?_number {c : Char} {cs : List Char} (hmark : c ∉ "\"[]\x7b\x7d,:".toList)
    (hwords : ∀ w ∈ Token.words, Token.after? w.1 (c :: cs) = none) :
    Token.read? (c :: cs) = (Token.readNumber (c :: cs)).map fun r => (.scalar r.1, r.2) := by
  have hfind : Token.words.find? (fun w => (Token.after? w.1 (c :: cs)).isSome) = none :=
    List.find?_eq_none.2 fun w hw => by rw [hwords w hw]; exact Bool.false_ne_true
  have hquote : c ≠ '"' := fun h => hmark (h ▸ by decide)
  have hrest : "[]\x7b\x7d,:".toList.contains c = false := by
    rw [← Bool.not_eq_true, List.contains_iff_mem]
    exact fun h => hmark (List.mem_cons_of_mem _ h)
  rw [Token.read?, if_neg hquote, hrest, hfind]
  rfl

/-- An integer that was written is read back as the same number. -/
theorem read?_decimal (n : Int) (h : Ends rest) :
    Token.read? (Text.decimal n ++ rest) = some (.scalar (.int n), rest) := by
  have hnumber := readNumber_decimal n h
  obtain ⟨d, ds, hdigits, hd⟩ := exists_toDigits n.natAbs
  unfold Text.decimal at hnumber ⊢
  rw [hdigits] at hnumber ⊢
  split_ifs at hnumber ⊢
  · rw [List.cons_append, List.cons_append] at hnumber ⊢
    rw [read?_number (by decide) fun w hw => (after?_digit hd hw _).2, hnumber]
    rfl
  · have hmarks : "\"[]\x7b\x7d,:".toList.all (fun x => !x.isDigit) = true := by decide
    have hmark : d ∉ "\"[]\x7b\x7d,:".toList := fun hmem => by
      have hnone := List.all_eq_true.1 hmarks d hmem
      rw [hd] at hnone
      cases hnone
    rw [List.cons_append] at hnumber ⊢
    rw [read?_number hmark fun w hw => (after?_digit hd hw _).1, hnumber]
    rfl

end StateTraces.Json
