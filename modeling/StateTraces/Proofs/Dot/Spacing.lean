import StateTraces.Proofs.Dot.Layout

/-
The layout of a text does not matter: whatever blanks, newlines and comments are put in right before
tokens, the text has the same lexemes as before. The new text is laid out by the old layout with wider
gaps. No lexeme grows into what is put in before the next one, and a number sign that starts a directive
still does, for nothing is put in between two pieces of a gap.
-/

namespace StateTraces.Dot

/-! ## Fillers -/

/-- What may be put in before a token: blanks and newlines, closed comments, and comments to the end of
their line together with that end. -/
inductive Filler : List Char → Prop where
  | nil : Filler []
  | space {c : Char} {more : List Char} (hc : isBlank c = true ∨ c = '\n') (h : Filler more) : Filler (c :: more)
  | block {body more : List Char} (hbody : Unclosed body) (h : Filler more) :
      Filler ('/' :: '*' :: (body ++ '*' :: '/' :: more))
  | line {text more : List Char} (htext : '\n' ∉ text) (h : Filler more) :
      Filler ('/' :: '/' :: (text ++ '\n' :: more))

/-- A text with a filler put in right before the character at each place. -/
def spread (filler : Position → List Char) (p : Position) : List Char → List Char
  | [] => []
  | c :: cs => filler p ++ c :: spread filler (p.next c) cs

section Fillers

variable {before after text more : List Char} {c : Char} {l : Lexeme} {filler : Position → List Char} {p : Position}

theorem Filler.silence (h : Filler text) : Silence after before text := by
  induction h generalizing before with
  | nil => exact .nil
  | @space c more hc _ ih =>
    show Silence after before ([c] ++ more)
    rcases hc with hc | rfl
    · exact .cons (.blank hc) ih
    · exact .cons .newline ih
  | @block body more hbody _ ih =>
    have htext : '/' :: '*' :: (body ++ '*' :: '/' :: more) = '/' :: '*' :: (body ++ ['*', '/']) ++ more := by simp
    rw [htext]
    exact .cons (.blockComment hbody) ih
  | @line text more htext _ ih =>
    -- the comment ends before its newline, which is a piece of its own
    have hend : LineEnds ('\n' :: more ++ after) := fun c hc => by cases hc; rfl
    show Silence after before ('/' :: '/' :: text ++ (['\n'] ++ more))
    exact .cons (.lineComment htext hend) (.cons .newline ih)

theorem Filler.head (h : Filler (c :: more)) : ¬ Visible c ∨ c = '/' := by
  cases h with
  | space hc =>
    refine .inl fun hv => ?_
    rcases hc with hc | hc
    · rw [hv.1] at hc; cases hc
    · exact hv.2 hc
  | block => exact .inr rfl
  | line => exact .inr rfl

/-- Every lexeme may end before a filler. -/
theorem Filler.stops (h : Filler (c :: more)) (l : Lexeme) : l.Stops c := by
  have hnot : ∀ q : Char → Bool, invisible.any q = false → q '/' = false →
      q c = false := by
    intro q hq hslash
    rcases h.head with hc | rfl
    · rw [Bool.eq_false_iff]
      exact fun hqc => hc (visible_of hq hqc)
    · exact hslash
  cases l with
  | word => exact hnot continuesWord (by decide) rfl
  | numeral =>
    refine ⟨hnot Char.isDigit (by decide) rfl, fun _ => ?_⟩
    simpa using hnot (· == '.') (by decide) rfl
  | quoted | angle | arrow | mark => trivial

/-- A text without places to fill is the same again. -/
theorem spread_append (h : ∀ u c v, text = u ++ c :: v → filler (p.advance u) = []) :
    spread filler p (text ++ more) = text ++ spread filler (p.advance text) more := by
  induction text generalizing p with
  | nil => rfl
  | cons c text ih =>
    have hfirst : filler p = [] := h [] c text rfl
    have hrest := ih (p := p.next c) fun u d v htext => h (c :: u) d v (by rw [htext]; rfl)
    rw [List.cons_append, spread, hfirst, List.nil_append, hrest]
    rfl

/-- What stands behind a place where a lexeme may end still does when fillers are put in. -/
theorem stops_spread (hfiller : ∀ p, Filler (filler p)) (h : ∀ c ∈ text.head?, l.Stops c) :
    ∀ c ∈ (spread filler p text).head?, l.Stops c := by
  intro c hc
  cases text with
  | nil => cases hc
  | cons d text =>
    have hp := hfiller p
    rw [spread] at hc
    cases hf : filler p with
    | nil => rw [hf] at hc; cases hc; exact h _ rfl
    | cons e more => rw [hf] at hc hp; cases hc; exact hp.stops l

end Fillers

/-! ## Wider gaps -/

section Gaps

variable {before before' after after' piece gap more word : List Char} {l : Lexeme}

theorem Skips.mono (h : Skips before piece after) (hstart : AtLineStart before → AtLineStart before')
    (hend : LineEnds after → LineEnds after') : Skips before' piece after' := by
  cases h with
  | blank hc => exact .blank hc
  | newline => exact .newline
  | lineComment htext hafter => exact .lineComment htext (hend hafter)
  | blockComment hbody => exact .blockComment hbody
  | directive hbefore htext hafter => exact .directive (hstart hbefore) htext (hend hafter)

theorem Silence.mono (h : Silence after before gap) (hstart : AtLineStart before → AtLineStart before')
    (hend : LineEnds after → LineEnds after') : Silence after' before' gap := by
  induction h generalizing before' with
  | nil => exact .nil
  | @cons before piece more hskip _ ih =>
    refine .cons (hskip.mono hstart fun h => ?_) (ih (AtLineStart.append_mono hstart piece))
    cases more with
    | nil => exact hend h
    | cons c more => exact h

theorem Silence.append (h : Silence (more ++ after) before gap) (hmore : Silence after (before ++ gap) more) :
    Silence after before (gap ++ more) := by
  induction h with
  | nil => rwa [List.append_nil] at hmore
  | cons hskip _ ih =>
    rw [List.append_assoc]
    refine .cons ?_ (ih (by rwa [List.append_assoc]))
    rwa [List.append_assoc]

/-- A lexeme starts with a visible character. -/
theorem Spells.first (h : Spells l word) : ∃ c more, word = c :: more ∧ Visible c := by
  cases h with
  | @word c more hc => exact ⟨c, more, rfl, visible_of (by decide) hc⟩
  | numeral h =>
    obtain ⟨c, more, rfl, hc | rfl⟩ := h.cons
    · exact ⟨c, more, rfl, visible_of (by decide) hc⟩
    · exact ⟨'.', more, rfl, rfl, by decide⟩
  | negative => exact ⟨'-', _, rfl, rfl, by decide⟩
  | quoted => exact ⟨'"', _, rfl, rfl, by decide⟩
  | angle => exact ⟨'<', _, rfl, rfl, by decide⟩
  | arrow => exact ⟨'-', _, rfl, rfl, by decide⟩
  | line => exact ⟨'-', _, rfl, rfl, by decide⟩
  | mark hc =>
    refine ⟨_, [], rfl, visible_of (p := marks.contains) (by decide) ?_⟩
    rwa [List.contains_iff_mem]

/-- A gap before a lexeme may be filled up at its end. -/
theorem Silence.fill {rest rest' : List Char} (h : Silence (word ++ rest) before gap) (hword : Spells l word)
    (hstart : AtLineStart before → AtLineStart before') (hmore : Filler more) :
    Silence (word ++ rest') before' (gap ++ more) := by
  obtain ⟨c, tail, rfl, hc⟩ := hword.first
  refine (h.mono hstart fun hend => ?_).append hmore.silence
  exact absurd (hend c rfl) hc.2

end Gaps

/-! ## Texts with fillers -/

section Layouts

variable {before before' after text : List Char} {ts : List Token} {filler : Position → List Char}

theorem Layout.position (h : Layout after before text ts) {t : Token} (ht : t ∈ ts) :
    ∃ u, t.position = place (before ++ u) := by
  induction h with
  | last => cases ht
  | @token before gap word text l ts _ _ _ _ ih =>
    rcases List.mem_cons.1 ht with rfl | ht
    · exact ⟨gap, rfl⟩
    · obtain ⟨u, hu⟩ := ih ht
      exact ⟨gap ++ word ++ u, by rw [hu]; simp only [List.append_assoc]⟩

/-- Fillers are put in only before the tokens, those of a text or those before it. -/
def Filled (filler : Position → List Char) (before : List Char) (ts : List Token) : Prop :=
  ∀ p, filler p ≠ [] → (∃ u c v, before = u ++ c :: v ∧ p = place u) ∨ ∃ t ∈ ts, t.position = p

/-- Nothing is put in at a place behind the text before where no token starts. -/
theorem Filled.empty (h : Filled filler before ts) {w : List Char}
    (hw : ∀ t ∈ ts, t.position ≠ place (before ++ w)) : filler (place (before ++ w)) = [] := by
  by_contra hne
  rcases h _ hne with ⟨u, c, v, rfl, hplace⟩ | ⟨t, ht, hplace⟩
  · refine place_ne u c (v ++ w) ?_
    rw [← hplace, List.append_assoc, List.cons_append]
  · exact hw t ht hplace

theorem Filled.behind {gap word : List Char} {l : Lexeme} (h : Filled filler before (⟨l, place (before ++ gap)⟩ :: ts))
    (hword : Spells l word) : Filled filler (before ++ gap ++ word) ts := by
  obtain ⟨d, more, rfl, -⟩ := hword.first
  intro p hp
  rcases h p hp with ⟨u, c, v, rfl, rfl⟩ | ⟨t, ht, rfl⟩
  · exact .inl ⟨u, c, v ++ (gap ++ d :: more), by simp, rfl⟩
  · rcases List.mem_cons.1 ht with rfl | ht
    · exact .inl ⟨before ++ gap, d, more, rfl, rfl⟩
    · exact .inr ⟨t, ht, rfl⟩

/-- The filler of a token stands between its gap and its lexeme, which stay as they are. -/
theorem Filled.spread_token {gap word : List Char} {l : Lexeme}
    (h : Filled filler before (⟨l, place (before ++ gap)⟩ :: ts)) (hword : Spells l word)
    (hrest : Layout after (before ++ gap ++ word) text ts) :
    spread filler (place before) (gap ++ (word ++ text)) =
      gap ++ filler (place (before ++ gap)) ++ (word ++ spread filler (place (before ++ gap ++ word)) text) := by
  obtain ⟨d, more, rfl, -⟩ := hword.first
  -- a place before the text is one of a token only where the lexeme starts
  have hclear : ∀ {w : List Char} {c : Char} {v : List Char}, place (before ++ gap) ≠ place (before ++ w) →
      (∀ u, before ++ gap ++ d :: more ++ u = before ++ w ++ c :: (v ++ u)) → filler (place (before ++ w)) = [] := by
    refine fun {w c v} hfirst hbehind => h.empty fun t ht => ?_
    rcases List.mem_cons.1 ht with rfl | ht
    · exact hfirst
    · obtain ⟨u, hu⟩ := hrest.position ht
      rw [hu, hbehind]
      exact (place_ne _ _ _).symm
  have hgap : ∀ u c v, gap = u ++ c :: v → filler ((place before).advance u) = [] := by
    rintro u c v rfl
    rw [← place_append]
    refine hclear (c := c) (v := v ++ d :: more) ?_ (by simp)
    rw [← List.append_assoc]
    exact (place_ne _ _ _).symm
  have hmore : ∀ u c v, more = u ++ c :: v → filler ((place (before ++ gap ++ [d])).advance u) = [] := by
    rintro u c v rfl
    have hplace : before ++ gap ++ [d] ++ u = before ++ (gap ++ d :: u) := by simp
    rw [← place_append, hplace]
    refine hclear (c := c) (v := v) ?_ (by simp)
    rw [← List.append_assoc]
    exact place_ne _ _ _
  have hbehind : before ++ gap ++ d :: more = before ++ gap ++ [d] ++ more := by simp
  rw [spread_append hgap, ← place_append, List.cons_append, spread, ← place_concat, spread_append hmore,
    ← place_append, hbehind]
  simp only [List.append_assoc, List.cons_append]

/-- A text with fillers is laid out like the text, and its gaps are wider. -/
theorem Layout.spread (h : Layout [] before text ts) (hfiller : ∀ p, Filler (filler p))
    (hfilled : Filled filler before ts) (hstart : AtLineStart before → AtLineStart before') :
    ∃ ts', Layout [] before' (Dot.spread filler (place before) text) ts' ∧
      ts'.map Token.lexeme = ts.map Token.lexeme := by
  induction h generalizing before' with
  | @last before gap hgap =>
    have hclear : Dot.spread filler (place before) (gap ++ []) = gap ++ [] := spread_append fun u c v _ => by
      rw [← place_append]; exact hfilled.empty nofun
    rw [List.append_nil] at hclear
    exact ⟨[], by rw [hclear]; exact .last (hgap.mono hstart id), rfl⟩
  | @token before gap word text l ts hgap hword hstop hrest ih =>
    -- behind a lexeme no line starts, whatever stands before it
    obtain ⟨ts', hlayout, hlexemes⟩ := @ih (before' ++ (gap ++ filler (place (before ++ gap))) ++ word)
      (hfilled.behind hword) fun h => absurd h hword.not_atLineStart
    refine ⟨⟨l, place (before' ++ (gap ++ filler (place (before ++ gap))))⟩ :: ts', ?_, ?_⟩
    · rw [hfilled.spread_token hword hrest]
      refine .token (hgap.fill hword hstart (hfiller _)) hword ?_ hlayout
      rw [List.append_nil] at hstop ⊢
      exact stops_spread hfiller hstop
    · rw [List.map_cons, List.map_cons, hlexemes]

end Layouts

/-- What is put in before tokens leaves the lexemes of a text as they are. -/
theorem tokens_spread {text : String} {ts : List Token} (h : tokens text = .ok ts)
    {filler : Position → List Char} (hfiller : ∀ p, Filler (filler p))
    (hplaces : ∀ p, filler p ≠ [] → ∃ t ∈ ts, t.position = p) :
    ∃ ts', tokens (String.ofList (spread filler .start text.toList)) = .ok ts' ∧
      ts'.map Token.lexeme = ts.map Token.lexeme := by
  have hlayout := layout_of_tokens h
  obtain ⟨ts', hlayout', hlexemes⟩ := hlayout.spread hfiller (fun p hp => .inr (hplaces p hp)) id
  refine ⟨ts', tokens_of_layout ?_, hlexemes⟩
  rwa [String.toList_ofList]

end StateTraces.Dot
