import StateTraces.Proofs.Dot.Refusal
import StateTraces.Proofs.Dot.Relocation

/-
Where a refused text goes wrong. The reader is prompt, so it reports the first token that no document has
behind the tokens before it, or the end of the text if more tokens could make it a document. That the tokens
before can be completed is meant for texts: the front of the text that they were cut from, with the missing
lexemes written behind it, is a text that is accepted.
-/

namespace StateTraces.Dot

section Layouts

variable {before after text gap : List Char} {ts : List Token}

/-! ## Layouts put together -/

/-- Silence before a laid out text belongs to its first gap. -/
theorem Layout.silence (hgap : Silence (text ++ after) before gap) (h : Layout after (before ++ gap) text ts) :
    Layout after before (gap ++ text) ts := by
  induction hgap with
  | nil => rwa [List.append_nil] at h
  | @cons before piece more hskip _ ih =>
    rw [List.append_assoc]
    refine (ih ?_).skip (by rwa [List.append_assoc])
    rwa [← List.append_assoc] at h

/-- Two laid out texts, one behind the other. -/
theorem Layout.append {text' : List Char} {ts' : List Token} (h : Layout (text' ++ after) before text ts)
    (h' : Layout after (before ++ text) text' ts') : Layout after before (text ++ text') (ts ++ ts') := by
  induction h with
  | last hgap => exact h'.silence hgap
  | @token before gap word text l ts hgap hword hstop hrest ih =>
    have hmore : Layout after (before ++ gap ++ word) (text ++ text') (ts ++ ts') :=
      ih (by simpa only [List.append_assoc] using h')
    rw [List.append_assoc, List.append_assoc]
    refine .token ?_ hword ?_ hmore
    · simpa only [List.append_assoc] using hgap
    · simpa only [List.append_assoc] using hstop

/-- The text of the first tokens is laid out by itself, and a blank may stand behind it. -/
theorem Layout.front {pre rest : List Token} (h : Layout after before text (pre ++ rest)) :
    ∃ front behind, text = front ++ behind ∧
      ∀ more : List Char, (∀ c ∈ more.head?, c = ' ') → Layout more before front pre := by
  induction pre generalizing before text with
  | nil => exact ⟨[], text, rfl, fun _ _ => .last .nil⟩
  | cons t pre ih =>
    cases h with
    | @token _ gap word text l ts hgap hword hstop hrest =>
      obtain ⟨front, behind, rfl, hfront⟩ := ih hrest
      refine ⟨gap ++ (word ++ front), behind, by simp only [List.append_assoc], fun more hmore => ?_⟩
      refine .token ?_ hword (fun c hc => ?_) (hfront more hmore)
      · have hfill : Silence (word ++ (front ++ more)) before (gap ++ []) := hgap.fill hword id .nil
        rwa [List.append_nil] at hfill
      · cases front with
        | nil => rw [hmore c hc]; exact (Filler.space (.inl rfl) .nil).stops l
        | cons d front => exact hstop c hc

/-- Lexemes that can be written are laid out with a blank before each of them. -/
theorem exists_layout_spaced {more : List Token} (h : ∀ t ∈ more, ∃ word, Spells t.lexeme word) (before : List Char) :
    ∃ text ts, (∀ c ∈ text.head?, c = ' ') ∧ Layout [] before text ts ∧ SameLexemes more ts := by
  induction more generalizing before with
  | nil => exact ⟨[], [], nofun, .last .nil, .nil⟩
  | cons t more ih =>
    obtain ⟨⟨word, hword⟩, hmore⟩ := List.forall_mem_cons.1 h
    obtain ⟨text, ts, hblank, hlayout, hsame⟩ := ih hmore (before ++ [' '] ++ word)
    have hblank' : Filler [' '] := .space (.inl rfl) .nil
    refine ⟨[' '] ++ (word ++ text), _, ?_, .token hblank'.silence hword ?_ hlayout, .cons rfl hsame⟩
    · intro c hc
      exact (Option.some.inj hc).symm
    · intro c hc
      rw [List.append_nil] at hc
      rw [hblank c hc]
      exact hblank'.stops t.lexeme

end Layouts

/-! ## Completed texts -/

/-- The first tokens of a text with tokens behind them that can be written are the tokens of another text
with the same front, apart from the places of the new ones. -/
theorem exists_text {text : String} {pre rest more : List Token} (h : tokens text = .ok (pre ++ rest))
    (hmore : ∀ t ∈ more, ∃ word, Spells t.lexeme word) :
    ∃ text' more', tokens text' = .ok (pre ++ more') ∧ SameLexemes more more' := by
  obtain ⟨front, behind, -, hfront⟩ := (layout_of_tokens h).front
  obtain ⟨written, more', hblank, hlayout, hsame⟩ := exists_layout_spaced hmore front
  refine ⟨String.ofList (front ++ written), more', tokens_of_layout ?_, hsame⟩
  rw [String.toList_ofList]
  exact (hfront _ (by rwa [List.append_nil])).append hlayout

theorem SameLexemes.derives {ts ts' : List Token} (h : SameLexemes ts ts') {d : Document} (hd : Grammar.Document d ts) :
    Grammar.Document d ts' := by
  have hread := readDocument_same h
  rw [readDocument_iff.2 hd] at hread
  generalize hr : readDocument ts' = r at hread
  cases hread with
  | ok he => rw [← readDocument_iff, hr, he]

/-- Tokens of a text that can be completed are completed by a text. -/
theorem Viable.exists_text {text : String} {pre rest : List Token} (h : tokens text = .ok (pre ++ rest))
    (hviable : Viable Grammar.Document pre) :
    ∃ text' more d, tokens text' = .ok (pre ++ more) ∧ readDocument (pre ++ more) = .ok d := by
  obtain ⟨d, more, hmore, hd⟩ := hviable
  obtain ⟨text', more', htokens, hsame⟩ := Dot.exists_text h hmore
  have hall : SameLexemes (pre ++ more) (pre ++ more') := List.rel_append (sameLexemes_iff.2 rfl) hsame
  exact ⟨text', more', d, htokens, readDocument_iff.2 (hall.derives hd)⟩

/-! ## Refusals -/

/-- A problem is met at a token that no document has behind the tokens before it, whatever follows. -/
theorem readDocument_refuses {ts : List Token} {p : Problem} (h : readDocument ts = .error p) :
    ∃ pre rest, ts = pre ++ rest ∧ p.token? = rest.head? ∧ Viable Grammar.Document pre ∧
      ∀ rest', rest'.head? = rest.head? → readDocument (pre ++ rest') = .error p := by
  have herror : ∀ {us : List Token} {q : Problem}, (readDocument us).map (fun d => (d, ([] : List Token))) = .error q →
      readDocument us = .error q := by
    intro us q hq
    cases hread : readDocument us with
    | ok d => rw [hread] at hq; cases hq
    | error p => rw [hread] at hq; cases hq; rfl
  cases readDocument_prompt ts with
  | @takes v pre rest hts hv hread =>
    have := hread rest rfl
    rw [← hts, h] at this
    cases this
  | @refuses q pre rest hts hq hviable hread =>
    have hsame := herror (hread rest rfl)
    rw [← hts, h] at hsame
    cases hsame
    exact ⟨pre, rest, hts, hq, hviable, fun rest' hhead => herror (hread rest' hhead)⟩

/-- A refused text is reported at the first token that makes it wrong: the tokens before it are the front of
an accepted text, and with it behind them they are the front of no list of tokens that is accepted. The end
of the text is reported exactly if the whole of it is a proper front of such a list. -/
theorem refused_at_first_wrong_token {text : String} {ts : List Token} {p : Problem} (htokens : tokens text = .ok ts)
    (hread : readDocument ts = .error p) :
    (∀ t, p.token? = some t → Document.ofText text = .error ⟨p.complaint, t.position⟩ ∧
      ∃ pre rest, ts = pre ++ t :: rest ∧
        (∃ text' more d, tokens text' = .ok (pre ++ more) ∧ readDocument (pre ++ more) = .ok d) ∧
        ∀ more d, readDocument (pre ++ t :: more) ≠ .ok d) ∧
    (p.token? = none → ∃ text' more d, more ≠ [] ∧ tokens text' = .ok (ts ++ more) ∧
      readDocument (ts ++ more) = .ok d) ∧
    ((∃ more d, more ≠ [] ∧ readDocument (ts ++ more) = .ok d) → p.token? = none) := by
  obtain ⟨pre, rest, rfl, hp, hviable, hsame⟩ := readDocument_refuses hread
  obtain ⟨text', more, d, htokens', hd⟩ := hviable.exists_text htokens
  refine ⟨fun t ht => ?_, fun hnone => ?_, ?_⟩
  · obtain ⟨rest, rfl⟩ := List.head?_eq_some_iff.1 (hp.symm.trans ht)
    refine ⟨?_, pre, rest, rfl, ⟨text', more, d, htokens', hd⟩, fun more' d' hd' => ?_⟩
    · have hposition : p.position (pre ++ t :: rest) = t.position := by rw [Problem.position, ht]
      rw [Document.ofText, htokens, ← hposition]
      show Document.ofTokens _ = _
      rw [Document.ofTokens, hread]
      rfl
    · rw [hsame (t :: more') rfl] at hd'
      cases hd'
  · obtain rfl : rest = [] := List.head?_eq_none_iff.1 (hp.symm.trans hnone)
    rw [List.append_nil] at hread ⊢
    refine ⟨text', more, d, ?_, htokens', hd⟩
    rintro rfl
    rw [List.append_nil, hread] at hd
    cases hd
  · rintro ⟨more', d', -, hd'⟩
    cases rest with
    | nil => exact hp
    | cons t rest =>
      rw [List.append_assoc, hsame (t :: rest ++ more') rfl] at hd'
      cases hd'

/-- Behind the name of a graph, a second name is the first wrong token. -/
theorem refused_at_first_wrong_token_name :
    Document.ofText "digraph x y" = .error ⟨.expectedMark '\x7b' (some "y"), ⟨1, 11⟩⟩ ∧
      ∃ text more d, tokens text = .ok (⟨.word "digraph", ⟨1, 1⟩⟩ :: ⟨.word "x", ⟨1, 9⟩⟩ :: more) ∧
        readDocument (⟨.word "digraph", ⟨1, 1⟩⟩ :: ⟨.word "x", ⟨1, 9⟩⟩ :: more) = .ok d := by
  have htokens : tokens "digraph x y" =
      .ok [⟨.word "digraph", ⟨1, 1⟩⟩, ⟨.word "x", ⟨1, 9⟩⟩, ⟨.word "y", ⟨1, 11⟩⟩] := by
    decide +kernel
  have hread : readDocument [⟨.word "digraph", ⟨1, 1⟩⟩, ⟨.word "x", ⟨1, 9⟩⟩, ⟨.word "y", ⟨1, 11⟩⟩] =
      .error ⟨.expectedMark '\x7b' (some "y"), some ⟨.word "y", ⟨1, 11⟩⟩⟩ := rfl
  obtain ⟨hfault, pre, rest, hts, hcompleted, -⟩ := (refused_at_first_wrong_token htokens hread).1 _ rfl
  -- the token occurs only once
  obtain rfl : pre = [⟨.word "digraph", ⟨1, 1⟩⟩, ⟨.word "x", ⟨1, 9⟩⟩] := by
    rcases pre with _ | ⟨t, _ | ⟨u, _ | ⟨v, pre⟩⟩⟩ <;> simp_all
  exact ⟨hfault, hcompleted⟩

end StateTraces.Dot
