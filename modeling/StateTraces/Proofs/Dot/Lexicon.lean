import Mathlib.Data.List.DropRight
import StateTraces.Proofs.Dot.Lexing

/-
The lexicon of the graph language, apart from how a text is cut: which texts spell a lexeme, where a
lexeme may end, which texts between lexemes mean nothing, and how lexemes and the gaps between them make
up a text. The place of a lexeme is told by what stands before it: lines are counted by the newlines,
columns by the characters since the last newline, whatever those newlines belong to.
-/

namespace StateTraces.Dot

/-! ## Places -/

/-- Neither a blank nor a newline. -/
def Visible (c : Char) : Prop := isBlank c = false ∧ c ≠ '\n'

/-- All blanks, and the newline. -/
def invisible : List Char := [' ', '\t', '\r', '\x0c', '\x0b', '\n']

/-- What stands behind the last newline. -/
def lastLine (before : List Char) : List Char := before.rtakeWhile (· ≠ '\n')

/-- The place behind a text. -/
def place (before : List Char) : Position := ⟨before.count '\n' + 1, (lastLine before).length + 1⟩

/-- Only blanks stand between the last newline and the place behind the text. -/
def AtLineStart (before : List Char) : Prop := ∀ c ∈ lastLine before, isBlank c = true

/-- A line ends before this text. -/
def LineEnds (after : List Char) : Prop := ∀ c ∈ after.head?, c = '\n'

section Places

variable {before text : List Char} {c : Char}

@[simp] theorem lastLine_nil : lastLine [] = [] := rfl

theorem lastLine_newline : lastLine (before ++ ['\n']) = [] := List.rtakeWhile_concat_neg _ _ _ (by decide)

theorem lastLine_concat (hc : c ≠ '\n') : lastLine (before ++ [c]) = lastLine before ++ [c] :=
  List.rtakeWhile_concat_pos _ _ _ (by simpa using hc)

theorem lastLine_append (h : '\n' ∉ text) : lastLine (before ++ text) = lastLine before ++ text := by
  induction text using List.reverseRecOn with
  | nil => simp
  | append_singleton text c ih =>
    rw [List.mem_append, List.mem_singleton, not_or] at h
    rw [← List.append_assoc, lastLine_concat (Ne.symm h.2), ih h.1, List.append_assoc]

theorem place_nil : place [] = .start := rfl

theorem place_concat (before : List Char) (c : Char) : place (before ++ [c]) = (place before).next c := by
  unfold place Position.next
  by_cases hc : c = '\n'
  · subst hc
    rw [if_pos rfl, lastLine_newline, List.count_append]
    rfl
  · rw [if_neg hc, lastLine_concat hc, List.count_append, List.count_singleton, List.length_append]
    simp [hc]

theorem place_append (before text : List Char) : place (before ++ text) = (place before).advance text := by
  induction text generalizing before with
  | nil => rw [List.append_nil]; rfl
  | cons c text ih =>
    have := ih (before ++ [c])
    rw [place_concat, List.append_assoc] at this
    exact this

/-- No two characters of a text stand at one place. -/
theorem place_ne (before : List Char) (c : Char) (text : List Char) : place before ≠ place (before ++ c :: text) := by
  intro h
  obtain ⟨hline, hcolumn⟩ := Position.mk.injEq .. ▸ h
  have hcount : (c :: text).count '\n' = 0 := by rw [List.count_append] at hline; omega
  rw [lastLine_append (List.count_eq_zero.1 hcount), List.length_append, List.length_cons] at hcolumn
  omega

theorem atLineStart_nil : AtLineStart [] := fun _ hc => absurd hc (List.not_mem_nil)

theorem atLineStart_concat : AtLineStart (before ++ [c]) ↔ c = '\n' ∨ isBlank c = true ∧ AtLineStart before := by
  by_cases hc : c = '\n'
  · subst hc
    unfold AtLineStart
    rw [lastLine_newline]
    simp
  · unfold AtLineStart
    rw [lastLine_concat hc, or_iff_right hc]
    constructor
    · intro h
      exact ⟨h c (by simp), fun d hd => h d (List.mem_append_left _ hd)⟩
    · rintro ⟨hblank, h⟩ d hd
      rcases List.mem_append.1 hd with hd | hd
      · exact h d hd
      · rw [List.mem_singleton.1 hd]; exact hblank

/-- What is put before a line start elsewhere leaves it one, if it does so at once. -/
theorem AtLineStart.append_mono {before' : List Char} (h : AtLineStart before → AtLineStart before')
    (text : List Char) : AtLineStart (before ++ text) → AtLineStart (before' ++ text) := by
  induction text using List.reverseRecOn with
  | nil => simpa using h
  | append_singleton text c ih =>
    rw [← List.append_assoc, ← List.append_assoc, atLineStart_concat, atLineStart_concat]
    rintro (hc | ⟨hc, hstart⟩)
    · exact .inl hc
    · exact .inr ⟨hc, ih hstart⟩

theorem not_atLineStart_concat (hc : Visible c) : ¬ AtLineStart (before ++ [c]) := by
  rw [atLineStart_concat]
  rintro (h | ⟨h, -⟩)
  · exact hc.2 h
  · rw [hc.1] at h; cases h

/-- What stands behind a visible character on its line does not make it a line start again. -/
theorem not_atLineStart_line (hc : Visible c) (hline : '\n' ∉ c :: text) : ¬ AtLineStart (before ++ c :: text) := by
  intro h
  have hblank := h c (by rw [lastLine_append hline]; simp)
  rw [hc.1] at hblank; cases hblank

/-- A predicate that no blank and no newline satisfies is one of visible characters. -/
theorem visible_of {p : Char → Bool} (hp : invisible.any p = false) (h : p c = true) : Visible c := by
  have hnot : c ∉ invisible := fun hmem => List.any_eq_false.1 hp c hmem h
  simp only [invisible, List.mem_cons, List.not_mem_nil, or_false, not_or] at hnot
  exact ⟨by simp [isBlank, hnot], hnot.2.2.2.2.2⟩

end Places

/-! ## Lexemes -/

/-- Digits, or a point with digits on at least one side. -/
inductive Unsigned : List Char → Prop where
  | whole {digits : List Char} (hne : digits ≠ []) (h : ∀ c ∈ digits, c.isDigit = true) : Unsigned digits
  | point {digits fraction : List Char} (hne : digits ≠ [] ∨ fraction ≠ [])
      (h : ∀ c ∈ digits, c.isDigit = true) (hfraction : ∀ c ∈ fraction, c.isDigit = true) :
      Unsigned (digits ++ '.' :: fraction)

/-- What stands between the quotes of a quoted text: a backslash takes the next character with it. -/
inductive Quoting : List Char → Prop where
  | nil : Quoting []
  | escaped (c : Char) {body : List Char} (h : Quoting body) : Quoting ('\\' :: c :: body)
  | plain {c : Char} {body : List Char} (hquote : c ≠ '"') (hback : c ≠ '\\') (h : Quoting body) : Quoting (c :: body)

/-- What stands before the bracket that closes the innermost angle text but `depth`: every opening
bracket is closed, and `depth` closing brackets belong to brackets before. -/
structure Closing (depth : Nat) (body : List Char) : Prop where
  total : body.count '>' = body.count '<' + depth
  inside : ∀ p, p <+: body → p.count '>' ≤ p.count '<' + depth

/-- No comment is closed inside a text, nor by a slash right behind it. -/
def Unclosed (body : List Char) : Prop := ¬ ['*', '/'] <:+: body ++ ['*']

/-- A text spells a lexeme. -/
inductive Spells : Lexeme → List Char → Prop where
  | word {c : Char} {more : List Char} (hc : startsWord c = true) (h : ∀ d ∈ more, continuesWord d = true) :
      Spells (.word (String.ofList (c :: more))) (c :: more)
  | numeral {digits : List Char} (h : Unsigned digits) : Spells (.numeral (String.ofList digits)) digits
  | negative {digits : List Char} (h : Unsigned digits) :
      Spells (.numeral (String.ofList ('-' :: digits))) ('-' :: digits)
  | quoted {body : List Char} (h : Quoting body) :
      Spells (.quoted (String.ofList (unquote body))) ('"' :: (body ++ ['"']))
  | angle {body : List Char} (h : Closing 0 body) : Spells (.angle (String.ofList body)) ('<' :: (body ++ ['>']))
  | arrow : Spells (.arrow true) ['-', '>']
  | line : Spells (.arrow false) ['-', '-']
  | mark {c : Char} (h : c ∈ marks) : Spells (.mark c) [c]

/-- A lexeme may end before this character: it is the longest that the text spells. -/
def Lexeme.Stops : Lexeme → Char → Prop
  | .word _, c => continuesWord c = false
  | .numeral s, c => c.isDigit = false ∧ ('.' ∉ s.toList → c ≠ '.')
  | _, _ => True

/-! ## Gaps -/

/-- A piece of text that means nothing, by what stands before it and behind it. -/
inductive Skips (before : List Char) : List Char → List Char → Prop where
  | blank {c : Char} {after : List Char} (h : isBlank c = true) : Skips before [c] after
  | newline {after : List Char} : Skips before ['\n'] after
  | lineComment {text after : List Char} (h : '\n' ∉ text) (hend : LineEnds after) :
      Skips before ('/' :: '/' :: text) after
  | blockComment {body after : List Char} (h : Unclosed body) :
      Skips before ('/' :: '*' :: (body ++ ['*', '/'])) after
  | directive {text after : List Char} (hstart : AtLineStart before) (h : '\n' ∉ text) (hend : LineEnds after) :
      Skips before ('#' :: text) after

/-- Pieces that mean nothing, one behind the other. -/
inductive Silence (after : List Char) : List Char → List Char → Prop where
  | nil {before : List Char} : Silence after before []
  | cons {before piece more : List Char} (h : Skips before piece (more ++ after))
      (hmore : Silence after (before ++ piece) more) : Silence after before (piece ++ more)

/-! ## Layouts -/

/-- A text is laid out as gap, lexeme, gap, and so on, to the last gap. It stands behind `before` and
is followed by `after`. -/
inductive Layout (after : List Char) : List Char → List Char → List Token → Prop where
  | last {before gap : List Char} (h : Silence after before gap) : Layout after before gap []
  | token {before gap word text : List Char} {l : Lexeme} {ts : List Token}
      (hgap : Silence (word ++ (text ++ after)) before gap) (hword : Spells l word)
      (hstop : ∀ c ∈ (text ++ after).head?, l.Stops c) (hrest : Layout after (before ++ gap ++ word) text ts) :
      Layout after before (gap ++ (word ++ text)) (⟨l, place (before ++ gap)⟩ :: ts)

/-- Neither a lexeme nor a piece that means nothing starts here. -/
structure Stuck (before : List Char) (c : Char) (after : List Char) : Prop where
  lexeme : ∀ l word rest, word ++ rest = c :: after → ¬ Spells l word
  skip : ∀ piece rest, piece ++ rest = c :: after → ¬ Skips before piece rest

/-- What is wrong with a text that is stuck at a character. -/
def complaintAt (c : Char) : Complaint :=
  if c = '"' then .openQuote else if c = '<' then .openAngle else .strayCharacter c

end StateTraces.Dot
