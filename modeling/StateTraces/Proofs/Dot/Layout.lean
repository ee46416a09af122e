import StateTraces.Proofs.Dot.Cutting

/-
The tokens of a text are the lexemes of its layout, each at its place, and a text without a layout is
refused at the character where every layout of its front gets stuck. Both follow from one step, told by
what stands before: a piece that means nothing is skipped, a lexeme is taken, and the line start flag is
up at every line start.
-/

namespace StateTraces.Dot

/-! ## The line start flag -/

/-- The flag and the text on both sides of a place. The flag is up at a line start. It may stay up behind
a directive, but then nothing more stands on the line. -/
structure Flagged (b : Bool) (before after : List Char) : Prop where
  up : AtLineStart before → b = true
  down : b = true → AtLineStart before ∨ LineEnds after

section Steps

variable {b : Bool} {before after piece word rest : List Char} {l : Lexeme} {p : Position}

theorem flagged_start (after : List Char) : Flagged true [] after := ⟨fun _ => rfl, fun _ => .inl atLineStart_nil⟩

theorem flagged_down (h : ¬ AtLineStart before) : Flagged false before after := ⟨fun hs => absurd hs h, nofun⟩

/-- The flag says that a number sign starts a directive. -/
theorem Flagged.hash {cs : List Char} {c : Char} (h : Flagged b before (c :: cs)) :
    b = true → c = '#' → AtLineStart before := by
  rintro hb rfl
  refine (h.down hb).resolve_right fun hend => ?_
  exact absurd (hend '#' rfl) (by decide)

theorem exists_last {q : Char → Bool} {text : List Char} (hne : text ≠ []) (htext : ∀ c ∈ text, q c = true)
    (hq : invisible.any q = false) : ∃ init c, text = init ++ [c] ∧ Visible c :=
  ⟨text.dropLast, text.getLast hne, (List.dropLast_append_getLast hne).symm,
    visible_of hq (htext _ (List.getLast_mem hne))⟩

theorem Unsigned.last {digits : List Char} (h : Unsigned digits) : ∃ init c, digits = init ++ [c] ∧ Visible c := by
  cases h with
  | whole hne hdigits => exact exists_last hne hdigits (by decide)
  | @point digits fraction _ _ hfraction =>
    rcases List.eq_nil_or_concat' fraction with rfl | ⟨init, c, rfl⟩
    · exact ⟨digits, '.', rfl, rfl, by decide⟩
    · exact ⟨digits ++ '.' :: init, c, by simp, visible_of (by decide) (hfraction c (by simp))⟩

/-- A lexeme ends with a visible character. -/
theorem Spells.last (h : Spells l word) : ∃ init c, word = init ++ [c] ∧ Visible c := by
  cases h with
  | word hc hmore =>
    refine exists_last (q := continuesWord) (List.cons_ne_nil _ _) (fun d hd => ?_) (by decide)
    rcases List.mem_cons.1 hd with rfl | hd
    · rw [continuesWord, hc, Bool.true_or]
    · exact hmore d hd
  | numeral h => exact h.last
  | negative h =>
    obtain ⟨init, c, rfl, hc⟩ := h.last
    exact ⟨'-' :: init, c, rfl, hc⟩
  | quoted => exact ⟨'"' :: _, '"', rfl, rfl, by decide⟩
  | angle => exact ⟨'<' :: _, '>', rfl, rfl, by decide⟩
  | arrow => exact ⟨['-'], '>', rfl, rfl, by decide⟩
  | line => exact ⟨['-'], '-', rfl, rfl, by decide⟩
  | mark hc =>
    refine ⟨[], _, rfl, visible_of (p := marks.contains) (by decide) ?_⟩
    rwa [List.contains_iff_mem]

theorem Spells.not_atLineStart (h : Spells l word) : ¬ AtLineStart (before ++ word) := by
  obtain ⟨init, c, rfl, hc⟩ := h.last
  rw [← List.append_assoc]
  exact not_atLineStart_concat hc

/-! ## Steps -/

theorem Spells.tokensFrom (h : Spells l word) (hstop : ∀ c ∈ rest.head?, l.Stops c) :
    Dot.tokensFrom b p (word ++ rest) = (Dot.tokensFrom false (p.advance word) rest).map (⟨l, p⟩ :: ·) := by
  obtain ⟨c, more, k, rfl, hcut, hpiece, hlength⟩ := h.cut hstop b
  have htake : (c :: (more ++ rest)).take k.length = c :: more := by rw [hlength]; exact List.take_left
  have hdrop : (c :: (more ++ rest)).drop k.length = rest := by rw [hlength]; exact List.drop_left
  rw [List.cons_append, Dot.tokensFrom, hcut]
  simp only [hpiece, htake, hdrop, Piece.lexeme?, Piece.lineStart, Option.map_some, Option.toList_some,
    List.cons_append, List.nil_append]

theorem tokensFrom_skip {c : Char} {more : List Char} {k : Piece}
    (hcut : cut b c (more ++ after) = .ok (.first k more.length)) (hsilent : k.lexeme? = none) :
    tokensFrom b p (c :: more ++ after) = tokensFrom (k.lineStart b) (p.advance (c :: more)) after := by
  rw [List.cons_append, tokensFrom_silent hcut hsilent, List.take_left, List.drop_left]

/-- A piece that means nothing is skipped, and the flag behind it is right again. -/
theorem Skips.tokensFrom (h : Skips before piece after) (hb : Flagged b before (piece ++ after)) :
    ∃ b', Flagged b' (before ++ piece) after ∧
      ∀ p, Dot.tokensFrom b p (piece ++ after) = Dot.tokensFrom b' (p.advance piece) after := by
  cases h with
  | blank hc =>
    refine ⟨b, ⟨fun hstart => ?_, fun h => .inl ?_⟩, fun p => tokensFrom_blank hc⟩
    · exact hb.up ((atLineStart_concat.1 hstart).resolve_left (isBlank_ne_newline hc)).2
    · refine atLineStart_concat.2 (.inr ⟨hc, (hb.down h).resolve_right fun hend => ?_⟩)
      exact isBlank_ne_newline hc (hend _ rfl)
  | newline =>
    exact ⟨true, ⟨fun _ => rfl, fun _ => .inl (atLineStart_concat.2 (.inl rfl))⟩, fun p => tokensFrom_newline⟩
  | @lineComment text _ htext hend =>
    have hcomment : '\n' ∉ '/' :: '/' :: text := by simpa using htext
    have hmore : '\n' ∉ '/' :: text := fun h => hcomment (List.mem_cons_of_mem _ h)
    refine ⟨false, flagged_down (not_atLineStart_line ⟨rfl, by decide⟩ hcomment),
      fun p => tokensFrom_skip (k := .comment) ?_ rfl⟩
    rw [← run_line hmore hend]
    exact cut_lineComment
  | @blockComment body _ hbody =>
    refine ⟨false, flagged_down ?_, fun p => tokensFrom_skip (k := .comment) ?_ rfl⟩
    · have hlast : before ++ '/' :: '*' :: (body ++ ['*', '/']) =
          (before ++ '/' :: '*' :: (body ++ ['*'])) ++ ['/'] := by
        simp
      rw [hlast]
      exact not_atLineStart_concat ⟨rfl, by decide⟩
    · have hlength : ('*' :: (body ++ ['*', '/'])).length = body.length + 2 + 1 := by simp
      rw [hlength]
      exact cut_blockComment (blockComment_end hbody after)
  | directive hstart htext hend =>
    obtain rfl := hb.up hstart
    refine ⟨true, ⟨fun _ => rfl, fun _ => .inr hend⟩, fun p => tokensFrom_skip (k := .directive) ?_ rfl⟩
    rw [← run_line htext hend]
    exact cut_directive

/-- A text is refused where it is stuck and nowhere else. -/
theorem stuck_iff {c : Char} {cs : List Char} (hb : Flagged b before (c :: cs)) :
    Stuck before c cs ↔ cut b c cs = .error (complaintAt c) := by
  constructor
  · intro h
    rcases starts_or_refused hb.hash with ⟨piece, rest, htext, hskip⟩ | ⟨l, word, rest, htext, hword, -⟩ | hcut
    · exact absurd hskip (h.skip piece rest htext)
    · exact absurd hword (h.lexeme l word rest htext)
    · exact hcut
  · intro h
    have hnot : ∀ d more k rest, (d :: more) ++ rest = c :: cs → cut b d (more ++ rest) ≠ .ok k := by
      intro d more k rest htext hcut
      rw [List.cons_append, List.cons.injEq] at htext
      rw [htext.1, htext.2, h] at hcut
      cases hcut
    constructor
    · rintro l word rest htext hword
      obtain ⟨d, more, k, rfl, hcut⟩ := hword.cut_ok b rest
      exact hnot d more k rest htext hcut
    · rintro piece rest htext hskip
      obtain ⟨d, more, k, rfl, hcut⟩ := hskip.cut_ok hb.up
      exact hnot d more k rest htext hcut

end Steps

/-! ## Layouts -/

section Layouts

variable {b : Bool} {before after text gap : List Char} {ts : List Token}

/-- Silence is skipped. -/
theorem Silence.tokensFrom (h : Silence after before gap) (hb : Flagged b before (gap ++ after)) :
    ∃ b', Flagged b' (before ++ gap) after ∧
      ∀ p, Dot.tokensFrom b p (gap ++ after) = Dot.tokensFrom b' (p.advance gap) after := by
  induction h generalizing b with
  | nil => exact ⟨b, by rwa [List.append_nil], fun p => rfl⟩
  | @cons before piece more hskip hmore ih =>
    rw [List.append_assoc] at hb
    obtain ⟨b₁, hb₁, hpiece⟩ := hskip.tokensFrom hb
    obtain ⟨b₂, hb₂, hrest⟩ := ih hb₁
    refine ⟨b₂, by rwa [← List.append_assoc], fun p => ?_⟩
    rw [List.append_assoc, hpiece, hrest, Position.advance, Position.advance, Position.advance, List.foldl_append]

/-- The tokens of a text that starts with a laid out text are those of the layout and those behind it. -/
theorem Layout.tokensFrom (h : Layout after before text ts) (hb : Flagged b before (text ++ after)) :
    ∃ b', Flagged b' (before ++ text) after ∧ Dot.tokensFrom b (place before) (text ++ after) =
      (Dot.tokensFrom b' (place (before ++ text)) after).map (ts ++ ·) := by
  induction h generalizing b with
  | @last before gap hgap =>
    obtain ⟨b', hb', htokens⟩ := hgap.tokensFrom hb
    refine ⟨b', hb', ?_⟩
    rw [htokens, ← place_append]
    cases Dot.tokensFrom b' _ after <;> rfl
  | @token before gap word text l ts hgap hword hstop _ ih =>
    have htext : gap ++ (word ++ text) ++ after = gap ++ (word ++ (text ++ after)) := by simp only [List.append_assoc]
    rw [htext] at hb ⊢
    obtain ⟨b₁, -, hskipped⟩ := hgap.tokensFrom hb
    obtain ⟨b₂, hb₂, hrest⟩ := ih (flagged_down hword.not_atLineStart)
    have hbehind : before ++ gap ++ word ++ text = before ++ (gap ++ (word ++ text)) := by
      simp only [List.append_assoc]
    rw [hbehind] at hb₂ hrest
    refine ⟨b₂, hb₂, ?_⟩
    rw [hskipped, hword.tokensFrom hstop, ← place_append, ← place_append, hrest]
    cases Dot.tokensFrom b₂ _ after <;> rfl

/-- A piece that means nothing before a laid out text belongs to its first gap. -/
theorem Layout.skip {piece : List Char} (hskip : Skips before piece (text ++ after))
    (h : Layout after (before ++ piece) text ts) : Layout after before (piece ++ text) ts := by
  cases h with
  | last hgap => exact .last (.cons hskip hgap)
  | @token _ gap word text l ts hgap hword hstop hrest =>
    have hskip' : Skips before piece (gap ++ (word ++ (text ++ after))) := by simpa only [List.append_assoc] using hskip
    rw [← List.append_assoc, List.append_assoc before piece gap]
    refine .token (.cons hskip' hgap) hword hstop ?_
    simpa only [List.append_assoc] using hrest

/-- Every text is laid out up to its end or up to where it is stuck. -/
theorem exists_layout (before text : List Char) :
    (∃ ts, Layout [] before text ts) ∨
      ∃ front c after ts, text = front ++ c :: after ∧ Layout (c :: after) before front ts ∧
        Stuck (before ++ front) c after := by
  induction hn : text.length using Nat.strong_induction_on generalizing before text with
  | _ n ih =>
  cases text with
  | nil => exact .inl ⟨[], .last .nil⟩
  | cons c cs =>
    -- the flag that is up at line starts only
    obtain ⟨b, hb⟩ : ∃ b, Flagged b before (c :: cs) := by
      by_cases h : AtLineStart before
      · exact ⟨true, fun _ => rfl, fun _ => .inl h⟩
      · exact ⟨false, flagged_down h⟩
    rcases starts_or_refused hb.hash with ⟨piece, rest, htext, hskip⟩ | ⟨l, word, rest, htext, hword, hstop⟩ | hcut
    · have hlength : rest.length < n := by
        obtain ⟨d, more, -, rfl, -⟩ := hskip.cut_ok hb.up
        rw [← hn, ← htext, List.length_append, List.length_cons]; omega
      rw [← htext]
      rcases ih _ hlength (before ++ piece) rest rfl with ⟨ts, hrest⟩ | ⟨front, d, after, ts, rfl, hrest, hstuck⟩
      · exact .inl ⟨ts, hrest.skip (by rwa [List.append_nil])⟩
      · refine .inr ⟨piece ++ front, d, after, ts, by rw [List.append_assoc], hrest.skip hskip, ?_⟩
        rwa [← List.append_assoc]
    · have hlength : rest.length < n := by
        obtain ⟨d, more, -, rfl, -⟩ := hword.cut_ok false rest
        rw [← hn, ← htext, List.length_append, List.length_cons]; omega
      rw [← htext]
      rcases ih _ hlength (before ++ [] ++ word) rest rfl with ⟨ts, hrest⟩ | ⟨front, d, after, ts, rfl, hrest, hstuck⟩
      · exact .inl ⟨_, .token .nil hword (by rwa [List.append_nil]) hrest⟩
      · refine .inr ⟨[] ++ (word ++ front), d, after, _, by simp, .token .nil hword hstop hrest, ?_⟩
        simpa only [List.nil_append, List.append_nil, List.append_assoc] using hstuck
    · exact .inr ⟨[], c, cs, [], rfl, .last .nil, by rw [List.append_nil]; exact (stuck_iff hb).2 hcut⟩

end Layouts

/-! ## Tokens of a text -/

section Tokens

variable {b : Bool} {before front after text : List Char} {c : Char} {ts : List Token}

/-- The tokens of a laid out text, behind another one. -/
theorem tokensFrom_of_layout (hb : Flagged b before text) (h : Layout [] before text ts) :
    Dot.tokensFrom b (place before) text = .ok ts := by
  rw [← List.append_nil text] at hb ⊢
  obtain ⟨b', -, htokens⟩ := h.tokensFrom hb
  rw [htokens, Dot.tokensFrom, Except.map, List.append_nil]

/-- The fault of a text that is stuck, behind another one. -/
theorem tokensFrom_of_stuck (hb : Flagged b before (front ++ c :: after)) (h : Layout (c :: after) before front ts)
    (hstuck : Stuck (before ++ front) c after) :
    Dot.tokensFrom b (place before) (front ++ c :: after) = .error ⟨complaintAt c, place (before ++ front)⟩ := by
  obtain ⟨b', hb', htokens⟩ := h.tokensFrom hb
  rw [Dot.tokensFrom, (stuck_iff hb').1 hstuck] at htokens
  rw [htokens, Except.map]

/-- A text behind another one has exactly the tokens of its layout there. Every other text is refused where
its front is laid out and it is stuck. -/
theorem tokensFrom_iff_layout (hb : Flagged b before text) :
    (∀ ts, Dot.tokensFrom b (place before) text = .ok ts ↔ Layout [] before text ts) ∧
      ∀ fault, Dot.tokensFrom b (place before) text = .error fault ↔ ∃ front c after ts, text = front ++ c :: after ∧
        Layout (c :: after) before front ts ∧ Stuck (before ++ front) c after ∧
        fault = ⟨complaintAt c, place (before ++ front)⟩ := by
  constructor
  · refine fun ts => ⟨fun h => ?_, tokensFrom_of_layout hb⟩
    rcases exists_layout before text with ⟨ts', hlayout⟩ | ⟨front, c, after, ts', rfl, hlayout, hstuck⟩
    · rw [tokensFrom_of_layout hb hlayout] at h
      cases h; exact hlayout
    · rw [tokensFrom_of_stuck hb hlayout hstuck] at h
      cases h
  · refine fun fault => ⟨fun h => ?_, ?_⟩
    · rcases exists_layout before text with ⟨ts', hlayout⟩ | ⟨front, c, after, ts', rfl, hlayout, hstuck⟩
      · rw [tokensFrom_of_layout hb hlayout] at h
        cases h
      · rw [tokensFrom_of_stuck hb hlayout hstuck] at h
        cases h; exact ⟨front, c, after, ts', rfl, hlayout, hstuck, rfl⟩
    · rintro ⟨front, c, after, ts, rfl, hlayout, hstuck, rfl⟩
      exact tokensFrom_of_stuck hb hlayout hstuck

end Tokens

/-- A text stands behind nothing. -/
theorem tokens_eq (text : String) : tokens text = tokensFrom true (place []) text.toList := by
  rw [tokens, place_nil]

/-- The tokens of a laid out text. -/
theorem tokens_of_layout {text : String} {ts : List Token} (h : Layout [] [] text.toList ts) :
    tokens text = .ok ts := by
  rw [tokens_eq]
  exact tokensFrom_of_layout (flagged_start _) h

theorem layout_of_tokens {text : String} {ts : List Token} (h : tokens text = .ok ts) :
    Layout [] [] text.toList ts := by
  rw [tokens_eq] at h
  exact ((tokensFrom_iff_layout (flagged_start _)).1 ts).1 h

/-- A text has exactly the tokens of its layout: the lexemes that are spelled between gaps, each at its
place. Every other text is refused where its front is laid out and it is stuck. -/
theorem tokens_iff_layout (text : String) :
    (∀ ts, tokens text = .ok ts ↔ Layout [] [] text.toList ts) ∧
      ∀ fault, tokens text = .error fault ↔ ∃ front c after ts, text.toList = front ++ c :: after ∧
        Layout (c :: after) [] front ts ∧ Stuck front c after ∧ fault = ⟨complaintAt c, place front⟩ := by
  rw [tokens_eq]
  exact tokensFrom_iff_layout (flagged_start _)

-- a directive, and a quoted text that ends on the next line
example : tokens "a\n # b\n\"c\n\" <d>" =
    .ok [⟨.word "a", ⟨1, 1⟩⟩, ⟨.quoted "c\n", ⟨3, 1⟩⟩, ⟨.angle "d", ⟨4, 3⟩⟩] := by decide +kernel

end StateTraces.Dot
