import Mathlib.Data.List.Basic
import StateTraces.Dot.Lexer
import StateTraces.Dot.Printer

/-
Which lexemes a text is cut into, put together from the front: a lexeme, then the lexemes of the text
behind it. Where a lexeme stands does not matter here. A text in quotes is read back as it was before its
quotes were escaped, provided that it holds no backslash which would escape something itself.
-/

namespace StateTraces.Dot

/-! ## Lexemes of a text -/

/-- A text is cut into these lexemes, wherever it stands. -/
def Lexes (lineStart : Bool) (text : List Char) (lexemes : List Lexeme) : Prop :=
  ∀ position, ∃ ts, tokensFrom lineStart position text = .ok ts ∧ ts.map Token.lexeme = lexemes

section Pieces

variable {b : Bool} {c : Char} {cs rest : List Char} {ls : List Lexeme}

theorem lexes_nil : Lexes b [] [] := fun _ => ⟨[], by rw [tokensFrom], rfl⟩

/-- A lexeme at the front and the lexemes of the rest. -/
theorem lexes_lexeme {l : Lexeme} {n : Nat} (hcut : cut b c cs = .ok (.first (.lexeme l) n))
    (hrest : Lexes false (cs.drop n) ls) : Lexes b (c :: cs) (l :: ls) := by
  intro position
  obtain ⟨ts, hts, hls⟩ := hrest (position.advance (c :: cs.take n))
  refine ⟨⟨l, position⟩ :: ts, ?_, by rw [List.map_cons, hls]⟩
  rw [tokensFrom, hcut]
  simp only [Cut.first, Piece.lineStart, List.take_succ_cons, List.drop_succ_cons, hts]
  rfl

/-! ## Blanks -/

theorem isBlank_ne_newline (h : isBlank c = true) : c ≠ '\n' := by
  rintro rfl; revert h; decide

theorem isBlank_ne_hash (h : isBlank c = true) : c ≠ '#' := by
  rintro rfl; revert h; decide

theorem cut_blank (h : isBlank c = true) : cut b c cs = .ok (.first .blank (run isBlank cs)) := by
  rw [cut, if_neg (isBlank_ne_newline h), if_neg fun hc => isBlank_ne_hash h hc.2, if_pos h]

/-- A piece that means nothing is skipped. -/
theorem tokensFrom_silent {position : Position} {piece : Piece} {n : Nat} (hcut : cut b c cs = .ok (.first piece n))
    (hsilent : piece.lexeme? = none) : tokensFrom b position (c :: cs) =
      tokensFrom (piece.lineStart b) (position.advance (c :: cs.take n)) (cs.drop n) := by
  rw [tokensFrom, hcut]
  simp only [Cut.first, hsilent, Option.map_none, Option.toList_none, List.nil_append, List.take_succ_cons,
    List.drop_succ_cons]
  cases tokensFrom (piece.lineStart b) _ (cs.drop n) <;> rfl

theorem tokensFrom_blank_run {position : Position} (h : isBlank c = true) :
    tokensFrom b position (c :: cs) = tokensFrom b
      (position.advance (c :: cs.take (run isBlank cs))) (cs.drop (run isBlank cs)) :=
  tokensFrom_silent (cut_blank h) rfl

/-- A blank is skipped by itself, although blanks are cut together. -/
theorem tokensFrom_blank {position : Position} (h : isBlank c = true) :
    tokensFrom b position (c :: cs) = tokensFrom b (position.next c) cs := by
  rw [tokensFrom_blank_run h]
  cases cs with
  | nil => rfl
  | cons d cs =>
    by_cases hd : isBlank d = true
    · have hrun : run isBlank (d :: cs) = run isBlank cs + 1 := by simp [run, hd]
      rw [tokensFrom_blank_run hd, hrun]
      rfl
    · have hrun : run isBlank (d :: cs) = 0 := by simp [run, hd]
      rw [hrun]
      rfl

theorem tokensFrom_newline {position : Position} :
    tokensFrom b position ('\n' :: cs) = tokensFrom true (position.next '\n') cs := by
  have hcut : cut b '\n' cs = .ok (.first .newline 0) := by rw [cut, if_pos rfl]
  exact tokensFrom_silent hcut rfl

/-- Blanks and newlines, and nothing else. -/
def Gap (text : List Char) : Prop := ∀ c ∈ text, isBlank c = true ∨ c = '\n'

theorem lexes_gap {gap : List Char} (hgap : Gap gap) (h : ∀ b, Lexes b rest ls) :
    ∀ b, Lexes b (gap ++ rest) ls := by
  induction gap with
  | nil => exact h
  | cons c gap ih =>
    have hmore := ih fun d hd => hgap d (List.mem_cons_of_mem _ hd)
    -- a newline starts a line and a blank does not, so the rest is taken both ways
    intro b position
    rw [List.cons_append]
    rcases hgap c (List.mem_cons_self ..) with hc | rfl
    · rw [tokensFrom_blank hc]; exact hmore b _
    · rw [tokensFrom_newline]; exact hmore true _

theorem lexes_space (h : ∀ b, Lexes b rest ls) : Lexes b (' ' :: rest) ls :=
  have hgap : Gap [' '] := by simp [Gap, isBlank]
  lexes_gap hgap h b

/-! ## Marks, arrows and words -/

/-- The marks of the language. -/
def marks : List Char := ['\x7b', '\x7d', '[', ']', ';', ',', '=', ':', '+']

theorem cut_mark (hc : c ∈ marks) : cut b c cs = .ok (.first (.lexeme (.mark c)) 0) := by
  simp only [marks, List.mem_cons, List.not_mem_nil, or_false] at hc
  rcases hc with rfl | rfl | rfl | rfl | rfl | rfl | rfl | rfl | rfl <;> cases b <;> rfl

theorem lexes_mark (hc : c ∈ marks) (h : Lexes false rest ls) : Lexes b (c :: rest) (.mark c :: ls) :=
  lexes_lexeme (cut_mark hc) h

theorem cut_arrow : cut b '-' ('>' :: cs) = .ok (.first (.lexeme (.arrow true)) 1) := by
  cases b <;> rfl

theorem lexes_arrow (h : Lexes false rest ls) : Lexes b ('-' :: '>' :: rest) (.arrow true :: ls) :=
  lexes_lexeme cut_arrow h

theorem startsWord_ne {d : Char} (hc : startsWord c = true) (hd : startsWord d = false) : c ≠ d := by
  rintro rfl
  rw [hc] at hd
  cases hd

theorem isUpper_iff_toNat : c.isUpper = true ↔ 65 ≤ c.toNat ∧ c.toNat ≤ 90 := by
  show decide (c.val ≥ 'A'.val ∧ c.val ≤ 'Z'.val) = true ↔ _
  rw [decide_eq_true_eq, ge_iff_le, UInt32.le_iff_toNat_le, UInt32.le_iff_toNat_le]
  rfl

theorem isLower_iff_toNat : c.isLower = true ↔ 97 ≤ c.toNat ∧ c.toNat ≤ 122 := by
  show (decide (c.val ≥ 'a'.val) && decide (c.val ≤ 'z'.val)) = true ↔ _
  rw [Bool.and_eq_true, decide_eq_true_eq, decide_eq_true_eq, ge_iff_le, UInt32.le_iff_toNat_le,
    UInt32.le_iff_toNat_le]
  rfl

theorem isDigit_of_startsWord (hc : startsWord c = true) : c.isDigit = false := by
  have hdigit : c.isDigit = true ↔ 48 ≤ c.toNat ∧ c.toNat ≤ 57 := Char.isDigit_iff_toNat
  rw [Bool.eq_false_iff, ne_eq, hdigit]
  have halpha : c.isAlpha = (c.isUpper || c.isLower) := rfl
  simp only [startsWord, halpha, Bool.or_eq_true, isUpper_iff_toNat, isLower_iff_toNat, beq_iff_eq, Bool.and_eq_true,
    decide_eq_true_eq] at hc
  rintro ⟨hlow, hhigh⟩
  rcases hc with ((h | h) | rfl) | h
  · omega
  · omega
  · exact absurd hhigh (by decide)
  · omega

theorem isBlank_of_startsWord (hc : startsWord c = true) : isBlank c = false := by
  simp only [isBlank, Bool.or_eq_false_iff, beq_eq_false_iff_ne]
  exact ⟨⟨⟨⟨startsWord_ne hc rfl, startsWord_ne hc rfl⟩, startsWord_ne hc rfl⟩, startsWord_ne hc rfl⟩,
    startsWord_ne hc rfl⟩

theorem numeralLength_eq_zero (hdigit : c.isDigit = false) (hpoint : c ≠ '.') (hminus : c ≠ '-') :
    numeralLength (c :: cs) = 0 := by
  have hrun : run Char.isDigit (c :: cs) = 0 := by simp [run, hdigit]
  have hlength : unsignedLength (c :: cs) = 0 := by
    rw [unsignedLength, hrun, List.drop_zero]
    split
    · rename_i h; exact absurd (List.cons.inj h).1 hpoint
    · rfl
  unfold numeralLength
  split
  · rename_i h; exact absurd (List.cons.inj h).1 hminus
  · exact hlength

theorem cut_word (hc : startsWord c = true) : cut b c cs =
    .ok (.first (.lexeme (.word (String.ofList (c :: cs.take (run continuesWord cs))))) (run continuesWord cs)) := by
  have hnumeral : numeralLength (c :: cs) = 0 :=
    numeralLength_eq_zero (isDigit_of_startsWord hc) (startsWord_ne hc rfl) (startsWord_ne hc rfl)
  have hslash : c ≠ '/' := startsWord_ne hc rfl
  have hminus : c ≠ '-' := startsWord_ne hc rfl
  rw [cut, if_neg (startsWord_ne hc rfl), if_neg fun h => startsWord_ne hc rfl h.2,
    if_neg (by rw [isBlank_of_startsWord hc]; exact Bool.false_ne_true), if_neg fun h => hslash h.1,
    if_neg fun h => hslash h.1, if_neg fun h => hminus h.1, if_neg fun h => hminus h.1,
    dif_neg (by rw [hnumeral]; exact Nat.lt_irrefl 0), if_pos hc]
  rfl

/-- A word ends where the text does not continue it. -/
theorem lexes_word {w : List Char} (hc : startsWord c = true) (hw : w.all continuesWord = true)
    (hstop : ∀ d ∈ rest.head?, continuesWord d = false) (h : Lexes false rest ls) :
    Lexes b (c :: (w ++ rest)) (.word (String.ofList (c :: w)) :: ls) := by
  have hrun : (w ++ rest).takeWhile continuesWord = w := by
    rw [List.takeWhile_append_of_pos (List.all_eq_true.1 hw)]
    cases rest with
    | nil => simp
    | cons d rest => simp [hstop d rfl]
  have hmore : run continuesWord (w ++ rest) = w.length := congrArg List.length hrun
  refine lexes_lexeme (n := w.length) ?_ (by rwa [List.drop_left])
  rw [cut_word hc, hmore, List.take_left]

/-! ## Quoted texts -/

/-- No backslash stands right before a quote, another backslash, a newline or the end. -/
def Quotable (text : List Char) : Prop :=
  ∀ i, text[i]? = some '\\' → ∃ c ∈ text[i + 1]?, c ≠ '"' ∧ c ≠ '\\' ∧ c ≠ '\n'

theorem quotable_iff (text : List Char) : Quotable text ↔ ∀ i < text.length, text[i]? = some '\\' →
    (text[i + 1]?).any (fun c => c ≠ '"' ∧ c ≠ '\\' ∧ c ≠ '\n') = true := by
  simp only [Option.any_eq_true, decide_eq_true_eq]
  exact ⟨fun h i _ => h i, fun h i hi => h i (List.getElem?_eq_some_iff.1 hi).1 hi⟩

instance (text : List Char) : Decidable (Quotable text) := decidable_of_iff _ (quotable_iff text).symm

/-- A text with its quotes escaped. -/
def escape (text : List Char) : List Char := text.flatMap fun c => if c = '"' then ['\\', '"'] else [c]

@[simp] theorem escape_nil : escape [] = [] := rfl

@[simp] theorem escape_quote (text : List Char) : escape ('"' :: text) = '\\' :: '"' :: escape text := rfl

theorem escape_cons (hc : c ≠ '"') (text : List Char) : escape (c :: text) = c :: escape text := by
  rw [escape, List.flatMap_cons, if_neg hc]; rfl

theorem enquote_eq (s : String) : enquote s = '"' :: (escape s.toList ++ ['"']) := rfl

theorem Quotable.tail {text : List Char} (h : Quotable (c :: text)) : Quotable text :=
  fun i hi => h (i + 1) hi

/-- A backslash stands before some character, and that character needs no escape. -/
theorem Quotable.backslash {text : List Char} (h : Quotable ('\\' :: text)) :
    ∃ c more, text = c :: more ∧ c ≠ '"' ∧ c ≠ '\\' ∧ c ≠ '\n' := by
  obtain ⟨c, hc, hne⟩ := h 0 rfl
  cases text with
  | nil => cases hc
  | cons d more => cases hc; exact ⟨c, more, rfl, hne⟩

/-- An escaped text is closed by the quote behind it and by none inside. -/
theorem quoteEnd_escape (rest : List Char) : ∀ {text : List Char}, Quotable text →
    quoteEnd (escape text ++ '"' :: rest) = some ((escape text).length + 1)
  | [], _ => rfl
  | c :: text, h => by
    by_cases hquote : c = '"'
    · subst hquote
      rw [escape_quote, List.cons_append, List.cons_append, quoteEnd, quoteEnd_escape rest h.tail]
      rfl
    rw [escape_cons hquote]
    by_cases hback : c = '\\'
    · -- the backslash takes the next character with it
      subst hback
      obtain ⟨d, more, rfl, hd, -⟩ := h.backslash
      rw [escape_cons hd, List.cons_append, List.cons_append, quoteEnd, quoteEnd_escape rest h.tail.tail]
      rfl
    · rw [List.cons_append, quoteEnd, quoteEnd_escape rest h.tail]
      · rfl
      · exact hquote
      · exact fun _ _ he => absurd he hback

theorem unquote_escape : ∀ {text : List Char}, Quotable text → unquote (escape text) = text
  | [], _ => rfl
  | c :: text, h => by
    by_cases hquote : c = '"'
    · subst hquote
      rw [escape_quote, unquote, unquote_escape h.tail]
    rw [escape_cons hquote, unquote, unquote_escape h.tail]
    · -- a backslash stays, for it does not stand before a quote
      rintro cs rfl he
      obtain ⟨d, more, rfl, hd, -⟩ := h.backslash
      rw [escape_cons hd] at he
      exact hd (List.cons.inj he).1
    · rintro cs rfl he
      obtain ⟨d, more, rfl, hd, -, hnewline⟩ := h.backslash
      rw [escape_cons hd] at he
      exact hnewline (List.cons.inj he).1

theorem cut_quoted {n : Nat} (h : quoteEnd cs = some n) : cut b '"' cs =
    .ok (.first (.lexeme (.quoted (String.ofList (unquote (cs.take (n - 1)))))) n) := by
  have hnumeral : numeralLength ('"' :: cs) = 0 := numeralLength_eq_zero rfl (by decide) (by decide)
  simp [cut, isBlank, startsWord, hnumeral, h]

/-- A text in quotes is one lexeme, the text itself. -/
theorem lexes_enquote {s : String} (hs : Quotable s.toList) (h : Lexes false rest ls) :
    Lexes b (enquote s ++ rest) (.quoted s :: ls) := by
  have htext : enquote s ++ rest = '"' :: (escape s.toList ++ '"' :: rest) := by simp [enquote_eq]
  have hinside : (escape s.toList ++ '"' :: rest).take ((escape s.toList).length + 1 - 1) = escape s.toList := by
    rw [Nat.add_sub_cancel, List.take_left]
  rw [htext]
  refine lexes_lexeme (n := (escape s.toList).length + 1) ?_ ?_
  · rw [cut_quoted (quoteEnd_escape rest hs), hinside, unquote_escape hs, String.ofList_toList]
  · rwa [← List.drop_drop, List.drop_left]

end Pieces

end StateTraces.Dot
