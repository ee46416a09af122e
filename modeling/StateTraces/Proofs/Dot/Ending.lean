import StateTraces.Dot.Reader
import StateTraces.Proofs.Dot.Layout

/-
Where a text ends that is refused because something is missing. The fault is reported behind the last
token, by the place where the token starts and the length of its value. That is right as long as the
value is the text of the token. The value of a quoted text or of an angle text is shorter than its text,
by the delimiters and by what its escapes leave out, and its text may run over several lines.
-/

namespace StateTraces.Dot

/-- Quoted texts and angle texts: their value stands between delimiters. -/
def Lexeme.Delimited : Lexeme → Prop
  | .quoted _ | .angle _ => True
  | _ => False

/-- The text of the last token, with what stands before it and the gap behind it. -/
structure EndsWith (text : List Char) (t : Token) (before word gap : List Char) : Prop where
  text : text = before ++ word ++ gap
  spells : Spells t.lexeme word
  position : t.position = place before
  silent : Silence [] (before ++ word) gap

section Places

variable {before word text : List Char} {l : Lexeme} {t : Token}

/-! ## The text of a lexeme -/

theorem length_unquote_le (body : List Char) : (unquote body).length ≤ body.length := by
  fun_induction unquote body <;> simp only [List.length_cons, List.length_nil] <;> omega

theorem Unsigned.no_newline (h : Unsigned word) : '\n' ∉ word := by
  have hdigits : ∀ {ds : List Char}, (∀ c ∈ ds, c.isDigit = true) → '\n' ∉ ds := fun h hc =>
    absurd (h _ hc) (by decide)
  cases h with
  | whole _ h => exact hdigits h
  | point _ h hfraction => simpa using ⟨hdigits h, hdigits hfraction⟩

/-- A lexeme without delimiters is its own value, on one line. -/
theorem Spells.plain (h : Spells l word) (hl : ¬ l.Delimited) : '\n' ∉ word ∧ l.value.length = word.length := by
  cases h with
  | word hc hmore =>
    refine ⟨fun hn => ?_, String.length_ofList⟩
    rcases List.mem_cons.1 hn with rfl | hn
    · exact absurd hc (by decide)
    · exact absurd (hmore _ hn) (by decide)
  | numeral h => exact ⟨h.no_newline, String.length_ofList⟩
  | negative h => exact ⟨by simpa using h.no_newline, String.length_ofList⟩
  | quoted => exact absurd trivial hl
  | angle => exact absurd trivial hl
  | arrow => exact ⟨by decide, rfl⟩
  | line => exact ⟨by decide, rfl⟩
  | mark hc => exact ⟨fun hn => absurd (List.mem_singleton.1 hn ▸ hc) (by decide), by simp [Lexeme.value]⟩

/-- The delimiters do not count for the value. -/
theorem Spells.delimited (h : Spells l word) (hl : l.Delimited) : l.value.length + 2 ≤ word.length := by
  cases h with
  | @quoted body _ =>
    have := length_unquote_le body
    simpa [Lexeme.value, String.length_ofList] using this
  | angle => simp [Lexeme.value, String.length_ofList]
  | word | numeral | negative | arrow | line | mark => exact absurd hl id

/-! ## The place behind a token -/

theorem place_line (h : '\n' ∉ word) : place (before ++ word) =
    ⟨(place before).line, (place before).column + word.length⟩ := by
  unfold place
  rw [List.count_append, List.count_eq_zero.2 h, lastLine_append h, List.length_append, Nat.add_zero]
  dsimp only
  rw [Nat.add_right_comm]

theorem place_lines (h : '\n' ∈ word) : (place before).line < (place (before ++ word)).line := by
  have := List.count_pos_iff.2 h
  unfold place
  rw [List.count_append]
  dsimp only
  omega

theorem stop_of_plain (h : Spells t.lexeme word) (ht : t.position = place before) (hl : ¬ t.lexeme.Delimited) :
    t.stop = place (before ++ word) := by
  obtain ⟨hline, hlength⟩ := h.plain hl
  rw [place_line hline, Token.stop, ht, Token.value, hlength]

theorem stop_of_delimited (h : Spells t.lexeme word) (ht : t.position = place before) (hl : t.lexeme.Delimited)
    (hline : '\n' ∉ word) : ∃ n ≥ 2, place (before ++ word) = ⟨t.stop.line, t.stop.column + n⟩ := by
  have hlength := h.delimited hl
  refine ⟨word.length - t.value.length, ?_, ?_⟩
  · unfold Token.value; omega
  · rw [place_line hline, Token.stop, ht, Token.value, Nat.add_assoc, Nat.add_sub_cancel' (by omega)]

/-! ## The last token of a layout -/

theorem Layout.endsWith (h : Layout [] before text (ts : List Token)) (hlast : ts.getLast? = some t) :
    ∃ between word gap, EndsWith (before ++ text) t (before ++ between) word gap := by
  induction h with
  | last => cases hlast
  | @token before gap word text l ts hgap hword hstop hrest ih =>
    cases ts with
    | nil =>
      cases hlast
      cases hrest with
      | last hsilent => exact ⟨gap, word, text, by simp only [List.append_assoc], hword, rfl, hsilent⟩
    | cons u ts =>
      rw [List.getLast?_cons_cons] at hlast
      obtain ⟨between, word', gap', hend⟩ := ih hlast
      refine ⟨gap ++ word ++ between, word', gap', ?_⟩
      simpa only [List.append_assoc] using hend

end Places

/-! ## The report -/

/-- A text that is refused at its end is reported with the place of its last token and the length of the
value. This is the place right behind the text of the token if that text is the value. Behind a quoted
text or an angle text it is not: the column falls short, or the line does. -/
theorem reported_at_end {text : String} {ts : List Token} {p : Problem} (htokens : tokens text = .ok ts)
    (hne : ts ≠ []) (hread : readDocument ts = .error p) (hend : p.token? = none) :
    ∃ last before word gap, ts.getLast? = some last ∧ EndsWith text.toList last before word gap ∧
      Document.ofText text = .error ⟨p.complaint, last.stop⟩ ∧
      (¬ last.lexeme.Delimited → last.stop = place (before ++ word)) ∧
      (last.lexeme.Delimited → last.stop ≠ place (before ++ word) ∧
        ('\n' ∉ word → ∃ n ≥ 2, place (before ++ word) = ⟨last.stop.line, last.stop.column + n⟩) ∧
        ('\n' ∈ word → last.stop.line < (place (before ++ word)).line)) := by
  have hlast := List.getLast?_eq_some_getLast hne
  obtain ⟨before, word, gap, hends⟩ := (layout_of_tokens htokens).endsWith hlast
  rw [List.nil_append, List.nil_append] at hends
  obtain ⟨-, hword, hplace, -⟩ := id hends
  have hlines : '\n' ∈ word → (ts.getLast hne).stop.line < (place (before ++ word)).line := by
    rw [Token.stop, hplace]
    exact place_lines
  refine ⟨ts.getLast hne, before, word, gap, hlast, hends, ?_, stop_of_plain hword hplace, fun hl => ⟨?_, ?_, hlines⟩⟩
  · have hposition : p.position ts = (ts.getLast hne).stop := by rw [Problem.position, hend, hlast]
    rw [Document.ofText, htokens, ← hposition]
    show Document.ofTokens ts = _
    rw [Document.ofTokens, hread]
    rfl
  · intro heq
    by_cases hline : '\n' ∈ word
    · exact absurd (congrArg Position.line heq) (hlines hline).ne
    · obtain ⟨n, hn, hcolumn⟩ := stop_of_delimited hword hplace hl hline
      rw [hcolumn] at heq
      have := congrArg Position.column heq
      dsimp only at this
      omega
  · exact stop_of_delimited hword hplace hl

/-- A document of one word. -/
theorem reported_at_end_word :
    ∃ last before word gap, EndsWith "digraph ".toList last before word gap ∧
      Document.ofText "digraph " = .error ⟨.expectedMark '\x7b' none, place (before ++ word)⟩ := by
  have htokens : tokens "digraph " = .ok [⟨.word "digraph", ⟨1, 1⟩⟩] := by decide +kernel
  obtain ⟨last, before, word, gap, hlast, hends, hfault, hplain, -⟩ :=
    reported_at_end (p := ⟨.expectedMark '\x7b' none, none⟩) htokens (List.cons_ne_nil _ _) rfl rfl
  cases hlast
  rw [hplain id] at hfault
  exact ⟨_, before, word, gap, hends, hfault⟩

/-- Behind a quoted text of one character, two columns are missing. -/
theorem reported_inside_quoted :
    ∃ last before word, EndsWith "digraph \"a\"".toList last before word [] ∧
      Document.ofText "digraph \"a\"" = .error ⟨.expectedMark '\x7b' none, ⟨1, 10⟩⟩ ∧
      place (before ++ word) = ⟨1, 12⟩ := by
  have htokens : tokens "digraph \"a\"" = .ok [⟨.word "digraph", ⟨1, 1⟩⟩, ⟨.quoted "a", ⟨1, 9⟩⟩] := by
    decide +kernel
  refine ⟨⟨.quoted "a", ⟨1, 9⟩⟩, "digraph ".toList, "\"a\"".toList, ⟨by decide, ?_, by decide, .nil⟩, ?_, by decide⟩
  · have hbody : Quoting ['a'] := .plain (by decide) (by decide) .nil
    exact .quoted hbody
  · rw [Document.ofText, htokens]
    rfl

end StateTraces.Dot
