import StateTraces.Proofs.Dot.Reading

/-
The reader accepts exactly the documents of the grammar. Statements, groups and edges are read by
mutual recursion: soundness follows the number of tokens that are left, completeness the derivation.
-/

namespace StateTraces.Dot

open Grammar

/-! ## Keywords -/

namespace Token

variable {t : Token}

theorem Keyword.unique {k k' : String} (h : t.Keyword k) (h' : t.Keyword k') : k = k' := by
  obtain ⟨w, hw, rfl⟩ := h
  obtain ⟨w', hw', rfl⟩ := h'
  rw [hw] at hw'
  rw [Lexeme.word.inj hw']

theorem not_keyword_of_isIdentifier (h : t.isIdentifier = true) {k : String} (hk : k ∈ keywords) :
    ¬ t.Keyword k := by
  rintro ⟨w, hw, rfl⟩
  rw [isIdentifier, hw] at h
  simp [hk] at h

/-- The keywords of default attributes. -/
def Defaults (t : Token) : Prop := t.Keyword "graph" ∨ t.Keyword "node" ∨ t.Keyword "edge"

/-- What a group starts with. -/
def OpensGroup (t : Token) : Prop := t.Keyword "subgraph" ∨ t.Mark '\x7b'

theorem Defaults.not_opensGroup (h : t.Defaults) : ¬ t.OpensGroup := by
  have hbegins : ∀ k, t.Keyword k → k ≠ "subgraph" → ¬ t.OpensGroup := by
    rintro k hk hne (hs | hm)
    · exact hne (hk.unique hs)
    · obtain ⟨w, hw, -⟩ := hk
      rw [Mark, hw] at hm; cases hm
  rcases h with h | h | h
  · exact hbegins _ h (by decide)
  · exact hbegins _ h (by decide)
  · exact hbegins _ h (by decide)

theorem not_defaults_of_isIdentifier (h : t.isIdentifier = true) : ¬ t.Defaults := by
  rintro (hk | hk | hk) <;> exact not_keyword_of_isIdentifier h (by decide) hk

theorem not_opensGroup_of_isIdentifier (h : t.isIdentifier = true) : ¬ t.OpensGroup := by
  rintro (hk | hm)
  · exact not_keyword_of_isIdentifier h (by decide) hk
  · rw [Mark] at hm; rw [isIdentifier, hm] at h; cases h

theorem OpensGroup.begins (h : t.OpensGroup) : t.Begins := h.elim Keyword.begins Mark.begins

theorem isDefaults_iff :
    (t.isKeyword "graph" || t.isKeyword "node" || t.isKeyword "edge") = true ↔ t.Defaults := by
  simp [Defaults, or_assoc]

end Token

/-! ## Names and group heads -/

theorem gives_name_some {name : Option String} {t : Token} {ts rest : List Token} (h : t.isIdentifier = true) :
    Gives (readName (t :: ts)) name rest ↔
      ∃ v mid, Gives (readIdentifier (t :: ts)) v mid ∧ some v = name ∧ mid = rest := by
  unfold readName
  rw [if_pos (by simpa [headIs] using h)]
  exact gives_bind fun r => gives_pure

theorem gives_name_none {name : Option String} {ts rest : List Token}
    (h : NotAt (fun t => t.isIdentifier = true) ts) :
    Gives (readName ts) name rest ↔ none = name ∧ ts = rest := by
  unfold readName
  rw [if_neg (headIs_of_notAt h fun _ => id), gives_ok]

theorem readName_sound {name : Option String} {ts rest : List Token} (h : Gives (readName ts) name rest) :
    ∃ pre, ts = pre ++ rest ∧ Name name pre := by
  obtain ⟨t, ts, rfl, ht⟩ | hnone := at_or_notAt (fun t => t.isIdentifier = true) ts
  · obtain ⟨v, _, hv, rfl, rfl⟩ := (gives_name_some ht).1 h
    obtain ⟨pre, hpre, hid⟩ := readIdentifier_sound hv
    exact ⟨pre, hpre, .some hid⟩
  · obtain ⟨rfl, rfl⟩ := (gives_name_none hnone).1 h
    exact ⟨[], rfl, .none⟩

/-- A name is read when an opening brace is behind it. -/
theorem readName_complete {name : Option String} {ns rest : List Token} (h : Name name ns) {opening : Token}
    (hopen : opening.Mark '\x7b') : Gives (readName (ns ++ opening :: rest)) name (opening :: rest) := by
  cases h with
  | none =>
    refine (gives_name_none (notAt_cons.2 fun hid => ?_)).2 ⟨rfl, rfl⟩
    exact Token.not_opensGroup_of_isIdentifier hid (.inr hopen)
  | some hid =>
    obtain ⟨t, _, rfl, ht⟩ := hid.cons
    exact (gives_name_some ht).2 ⟨_, _, readIdentifier_complete hid (notAt_cons.2 (hopen.ne (by decide))), rfl, rfl⟩

theorem gives_groupHead_named {t : Token} {ts rest : List Token} (h : t.Keyword "subgraph") :
    Gives (readGroupHead (t :: ts)) () rest ↔
      ∃ name mid, Gives (readName ts) name mid ∧ Gives (readMark '\x7b' mid) () rest := by
  rw [readGroupHead, if_pos (Token.isKeyword_iff.2 h)]
  exact gives_bind fun name => gives_same

theorem gives_groupHead_bare {ts rest : List Token} (h : NotAt (Token.Keyword "subgraph") ts) :
    Gives (readGroupHead ts) () rest ↔ Gives (readMark '\x7b' ts) () rest := by
  cases ts with
  | nil => rfl
  | cons t ts => rw [readGroupHead, if_neg (mt Token.isKeyword_iff.1 (notAt_cons.1 h))]

theorem readGroupHead_sound {ts rest : List Token} (h : Gives (readGroupHead ts) () rest) :
    ∃ pre opening, ts = pre ++ opening :: rest ∧ GroupHead pre ∧ opening.Mark '\x7b' := by
  obtain ⟨t, ts, rfl, ht⟩ | hbare := at_or_notAt (Token.Keyword "subgraph") ts
  · obtain ⟨name, mid, hname, hmark⟩ := (gives_groupHead_named ht).1 h
    obtain ⟨ns, rfl, hns⟩ := readName_sound hname
    obtain ⟨opening, rfl, hopen⟩ := gives_mark.1 hmark
    exact ⟨t :: ns, opening, rfl, .named ht hns, hopen⟩
  · obtain ⟨opening, rfl, hopen⟩ := gives_mark.1 ((gives_groupHead_bare hbare).1 h)
    exact ⟨[], opening, rfl, .bare, hopen⟩

theorem readGroupHead_complete {hs : List Token} (h : GroupHead hs) {opening : Token} (hopen : opening.Mark '\x7b')
    (rest : List Token) : Gives (readGroupHead (hs ++ opening :: rest)) () rest := by
  have hmark : Gives (readMark '\x7b' (opening :: rest)) () rest := gives_mark.2 ⟨opening, rfl, hopen⟩
  cases h with
  | bare =>
    refine (gives_groupHead_bare (notAt_cons.2 ?_)).2 hmark
    rintro ⟨w, hw, -⟩
    rw [Token.Mark, hw] at hopen; cases hopen
  | named hkeyword hname => exact (gives_groupHead_named hkeyword).2 ⟨_, _, readName_complete hname hopen, hmark⟩

/-! ## What the readers of statements give -/

theorem gives_group {body : List Statement} {ts rest : List Token} :
    Gives (readGroup ts) body rest ↔ ∃ mid mid', Gives (readGroupHead ts) () mid ∧
      Gives (readStatements mid) body mid' ∧ Gives (readMark '\x7d' mid') () rest := by
  have hbind : Gives (readGroup ts) body rest ↔ ∃ u mid, Gives (readGroupHead ts) u mid ∧
      ∃ b mid', Gives (readStatements mid) b mid' ∧
        ∃ u' mid'', Gives (readMark '\x7d' mid') u' mid'' ∧ b = body ∧ mid'' = rest := by
    rw [readGroup]
    exact gives_bind fun head => gives_bind fun b => gives_bind fun close => gives_pure
  rw [hbind]
  constructor
  · rintro ⟨_, mid, hhead, _, mid', hbody, _, _, hclose, rfl, rfl⟩; exact ⟨mid, mid', hhead, hbody, hclose⟩
  · rintro ⟨mid, mid', hhead, hbody, hclose⟩
    exact ⟨(), mid, hhead, body, mid', hbody, (), rest, hclose, rfl, rfl⟩

theorem gives_endpoint_group {e : Endpoint} {ts rest : List Token} (h : ¬ NotAt Token.OpensGroup ts) :
    Gives (readEndpoint ts) e rest ↔
      ∃ body mid, Gives (readGroup ts) body mid ∧ .group body = e ∧ mid = rest := by
  rw [readEndpoint, if_pos (headIs_of_not_notAt h fun _ => Token.opensGroup_iff.2)]
  exact gives_bind fun r => gives_pure

theorem gives_endpoint_vertex {e : Endpoint} {ts rest : List Token} (h : NotAt Token.OpensGroup ts) :
    Gives (readEndpoint ts) e rest ↔
      ∃ name mid, Gives (readVertex ts) name mid ∧ .vertex name = e ∧ mid = rest := by
  rw [readEndpoint, if_neg (headIs_of_notAt h fun _ => Token.opensGroup_iff.1)]
  exact gives_bind fun r => gives_pure

theorem gives_chain_stop {es : List Endpoint} {ts rest : List Token} (h : NotAt Token.Arrow ts) :
    Gives (readChain ts) es rest ↔ [] = es ∧ ts = rest := by
  cases ts with
  | nil => rw [readChain, gives_ok]
  | cons t ts => rw [readChain, if_neg (mt Token.isArrow_iff.1 (notAt_cons.1 h)), gives_ok]

theorem gives_chain_more {es : List Endpoint} {t : Token} {ts rest : List Token} (h : t.Arrow) :
    Gives (readChain (t :: ts)) es rest ↔ ∃ e mid, Gives (readEndpoint ts) e mid ∧
      ∃ more mid', Gives (readChain mid) more mid' ∧ e :: more = es ∧ mid' = rest := by
  rw [readChain, if_pos (Token.isArrow_iff.2 h)]
  exact gives_bind fun one => gives_bind fun more => gives_pure

theorem gives_after_arrow {first : Endpoint} {s : Statement} {ts rest : List Token} (h : ¬ NotAt Token.Arrow ts) :
    Gives (readAfter first ts) s rest ↔ ∃ more mid, Gives (readChain ts) more mid ∧
      ∃ as mid', Gives (readAttributeLists mid) as mid' ∧ .edges first more as = s ∧ mid' = rest := by
  rw [readAfter.eq_def, if_pos (headIs_of_not_notAt h fun _ => Token.isArrow_iff.2)]
  exact gives_bind fun chain => gives_bind fun attributes => gives_pure

theorem gives_after_vertex {name : String} {s : Statement} {ts rest : List Token} (h : NotAt Token.Arrow ts) :
    Gives (readAfter (.vertex name) ts) s rest ↔
      ∃ as mid, Gives (readAttributeLists ts) as mid ∧ .vertex name = s ∧ mid = rest := by
  rw [readAfter, if_neg (headIs_of_notAt h fun _ => Token.isArrow_iff.1)]
  exact gives_bind fun attributes => gives_pure

theorem gives_after_group {body : List Statement} {s : Statement} {ts rest : List Token}
    (h : NotAt Token.Arrow ts) :
    Gives (readAfter (.group body) ts) s rest ↔ .group body = s ∧ ts = rest := by
  rw [readAfter, if_neg (headIs_of_notAt h fun _ => Token.isArrow_iff.1)]
  exact gives_ok

theorem gives_statement_defaults {s : Statement} {t : Token} {ts rest : List Token} (h : t.Defaults) :
    Gives (readStatement (t :: ts)) s rest ↔ ¬ NotAt (Token.Mark '[') ts ∧
      ∃ as mid, Gives (readAttributeLists ts) as mid ∧ .defaults = s ∧ mid = rest := by
  rw [readStatement, if_pos (Token.isDefaults_iff.2 h)]
  by_cases hts : NotAt (Token.Mark '[') ts
  · rw [if_neg (headIs_of_notAt hts fun _ => Token.isMark_iff.1)]
    exact iff_of_false not_gives_problem fun hand => hand.1 hts
  · rw [if_pos (headIs_of_not_notAt hts fun _ => Token.isMark_iff.2), and_iff_right hts]
    exact gives_bind fun r => gives_pure

theorem gives_statement_group {s : Statement} {t : Token} {ts rest : List Token} (h : t.OpensGroup) :
    Gives (readStatement (t :: ts)) s rest ↔
      ∃ body mid, Gives (readGroup (t :: ts)) body mid ∧
        ∃ s' mid', Gives (readAfter (.group body) mid) s' mid' ∧ s' = s ∧ mid' = rest := by
  rw [readStatement, if_neg fun hd => (Token.isDefaults_iff.1 hd).not_opensGroup h,
    if_pos (Token.opensGroup_iff.2 h)]
  exact gives_bind fun g => gives_bind fun r => gives_pure

theorem gives_statement_assignment {s : Statement} {t eq : Token} {ts rest : List Token}
    (h : t.isIdentifier = true) (heq : eq.Mark '=') :
    Gives (readStatement (t :: eq :: ts)) s rest ↔
      ∃ value mid, Gives (readIdentifier ts) value mid ∧ .assignment = s ∧ mid = rest := by
  rw [readStatement, if_neg fun hd => Token.not_defaults_of_isIdentifier h (Token.isDefaults_iff.1 hd),
    if_neg fun ho => Token.not_opensGroup_of_isIdentifier h (Token.opensGroup_iff.1 ho), if_pos h,
    if_pos (by simpa [headIs] using heq)]
  exact gives_bind fun r => gives_pure

theorem gives_statement_vertex {s : Statement} {t : Token} {ts rest : List Token}
    (h : t.isIdentifier = true) (heq : NotAt (Token.Mark '=') ts) :
    Gives (readStatement (t :: ts)) s rest ↔
      ∃ name mid, Gives (readVertex (t :: ts)) name mid ∧
        ∃ s' mid', Gives (readAfter (.vertex name) mid) s' mid' ∧ s' = s ∧ mid' = rest := by
  rw [readStatement, if_neg fun hd => Token.not_defaults_of_isIdentifier h (Token.isDefaults_iff.1 hd),
    if_neg fun ho => Token.not_opensGroup_of_isIdentifier h (Token.opensGroup_iff.1 ho), if_pos h,
    if_neg (headIs_of_notAt heq fun _ => Token.isMark_iff.1)]
  exact gives_bind fun name => gives_bind fun r => gives_pure

/-- Nothing else is a statement. -/
theorem not_gives_statement {s : Statement} {ts rest : List Token} (hdefaults : NotAt Token.Defaults ts)
    (hgroup : NotAt Token.OpensGroup ts) (hid : NotAt (fun t => t.isIdentifier = true) ts) :
    ¬ Gives (readStatement ts) s rest := by
  cases ts with
  | nil => rw [readStatement]; exact not_gives_problem
  | cons t ts =>
    rw [readStatement, if_neg fun hd => notAt_cons.1 hdefaults (Token.isDefaults_iff.1 hd),
      if_neg fun ho => notAt_cons.1 hgroup (Token.opensGroup_iff.1 ho), if_neg (notAt_cons.1 hid)]
    exact not_gives_problem

theorem gives_statements_stop {b : List Statement} {ts rest : List Token}
    (h : ts = [] ∨ ¬ NotAt (Token.Mark '\x7d') ts) : Gives (readStatements ts) b rest ↔ [] = b ∧ ts = rest := by
  have hstop : (ts.isEmpty || headIs (·.isMark '\x7d') ts) = true := by
    rcases h with rfl | h
    · rfl
    · rw [headIs_of_not_notAt h fun _ => Token.isMark_iff.2, Bool.or_true]
  rw [readStatements, if_pos hstop, gives_ok]

theorem gives_statements_more {b : List Statement} {ts rest : List Token} (hne : ts ≠ [])
    (h : NotAt (Token.Mark '\x7d') ts) :
    Gives (readStatements ts) b rest ↔ ∃ s mid, Gives (readStatement ts) s mid ∧
      ∃ more mid', Gives (readStatements (skipSeparators mid)) more mid' ∧ s :: more = b ∧ mid' = rest := by
  rw [readStatements, if_neg (by simp [headIs_of_notAt h fun _ => Token.isMark_iff.1, hne])]
  exact gives_bind fun one => gives_bind fun more => gives_pure

/-! ## Soundness -/

mutual

theorem readGroup_sound {body : List Statement} {ts rest : List Token} (h : Gives (readGroup ts) body rest) :
    ∃ pre, ts = pre ++ rest ∧ Block body pre := by
  obtain ⟨mid, mid', hhead, hbody, hmark⟩ := gives_group.1 h
  have := hhead.length_lt
  obtain ⟨hs, opening, hts, hhs, hopen⟩ := readGroupHead_sound hhead
  obtain ⟨bs, hmid, hbs⟩ := readStatements_sound hbody
  obtain ⟨closing, hmid', hclose⟩ := gives_mark.1 hmark
  exact ⟨hs ++ opening :: bs ++ [closing], by simp [hts, hmid, hmid'], .mk hhs hopen hbs hclose⟩
termination_by (ts.length, 0)

theorem readEndpoint_sound {e : Endpoint} {ts rest : List Token} (h : Gives (readEndpoint ts) e rest) :
    ∃ pre, ts = pre ++ rest ∧ Grammar.Endpoint e pre := by
  by_cases hvertex : NotAt Token.OpensGroup ts
  · obtain ⟨name, mid, hname, rfl, rfl⟩ := (gives_endpoint_vertex hvertex).1 h
    obtain ⟨pre, hpre, hv⟩ := readVertex_sound hname
    exact ⟨pre, hpre, .vertex hv⟩
  · obtain ⟨body, mid, hbody, rfl, rfl⟩ := (gives_endpoint_group hvertex).1 h
    obtain ⟨pre, hpre, hgroup⟩ := readGroup_sound hbody
    exact ⟨pre, hpre, .group hgroup⟩
termination_by (ts.length, 1)

theorem readChain_sound {es : List Endpoint} {ts rest : List Token} (h : Gives (readChain ts) es rest) :
    ∃ pre, ts = pre ++ rest ∧ Chain es pre ∧ (¬ NotAt Token.Arrow ts → es ≠ []) := by
  obtain ⟨t, us, rfl, ht⟩ | hstop := at_or_notAt Token.Arrow ts
  · obtain ⟨e, mid, he, more, _, hmore, rfl, rfl⟩ := (gives_chain_more ht).1 h
    have := he.length_lt
    obtain ⟨pre, hus, hpre⟩ := readEndpoint_sound he
    obtain ⟨pre', hmid, hpre', -⟩ := readChain_sound hmore
    exact ⟨t :: pre ++ pre', by simp [hus, hmid], .cons ht hpre hpre', fun _ => List.cons_ne_nil _ _⟩
  · obtain ⟨rfl, rfl⟩ := (gives_chain_stop hstop).1 h
    exact ⟨[], rfl, .nil, fun hat => absurd hstop hat⟩
termination_by (ts.length, 2)

/-- What follows the first end completes a statement that begins with it. -/
theorem readAfter_sound {first : Endpoint} {s : Statement} {ts rest fs : List Token}
    (h : Gives (readAfter first ts) s rest) (hfirst : Grammar.Endpoint first fs) :
    ∃ pre, ts = pre ++ rest ∧ Grammar.Statement s (fs ++ pre) := by
  by_cases hstop : NotAt Token.Arrow ts
  · cases hfirst with
    | vertex hname =>
      obtain ⟨as, _, has, rfl, rfl⟩ := (gives_after_vertex hstop).1 h
      obtain ⟨pre, hpre, hlists, -⟩ := readAttributeLists_sound has
      exact ⟨pre, hpre, .vertex hname hlists⟩
    | group hbody =>
      obtain ⟨rfl, rfl⟩ := (gives_after_group hstop).1 h
      exact ⟨[], rfl, by rw [List.append_nil]; exact .group hbody⟩
  · obtain ⟨more, mid, hmore, as, _, has, rfl, rfl⟩ := (gives_after_arrow hstop).1 h
    obtain ⟨ms, hms, hchain, hne⟩ := readChain_sound hmore
    obtain ⟨pre, hmid, hpre, -⟩ := readAttributeLists_sound has
    refine ⟨ms ++ pre, by simp [hms, hmid], ?_⟩
    rw [← List.append_assoc]
    exact .edges hfirst hchain (hne hstop) hpre
termination_by (ts.length, 3)

theorem readStatement_sound {s : Statement} {ts rest : List Token} (h : Gives (readStatement ts) s rest) :
    ∃ pre, ts = pre ++ rest ∧ Grammar.Statement s pre := by
  match ts, h with
  | [], h => exact absurd h (not_gives_statement notAt_nil notAt_nil notAt_nil)
  | t :: us, h =>
    by_cases hdefaults : t.Defaults
    · obtain ⟨hat, as, _, has, rfl, rfl⟩ := (gives_statement_defaults hdefaults).1 h
      obtain ⟨pre, rfl, hlists, hend⟩ := readAttributeLists_sound has
      refine ⟨t :: pre, rfl, .defaults hdefaults hlists ?_⟩
      -- a bracket was seen, and none is left
      rintro rfl
      exact hat hend
    by_cases hgroup : t.OpensGroup
    · obtain ⟨body, mid, hbody, _, _, hafter, rfl, rfl⟩ := (gives_statement_group hgroup).1 h
      have := hbody.length_lt
      obtain ⟨pre, hpre, hderives⟩ := readGroup_sound hbody
      obtain ⟨pre', hmid, hs⟩ := readAfter_sound hafter (.group hderives)
      exact ⟨pre ++ pre', by simp [hpre, hmid], hs⟩
    by_cases hid : t.isIdentifier = true
    · obtain ⟨eq, vs, rfl, heq⟩ | hno := at_or_notAt (Token.Mark '=') us
      · obtain ⟨value, _, hvalue, rfl, rfl⟩ := (gives_statement_assignment hid heq).1 h
        obtain ⟨pre, rfl, hident⟩ := readIdentifier_sound hvalue
        obtain ⟨key, hkey⟩ := Token.isIdentifier_iff.1 hid
        exact ⟨t :: eq :: pre, rfl, .assignment hkey heq hident⟩
      · obtain ⟨name, mid, hname, _, _, hafter, rfl, rfl⟩ := (gives_statement_vertex hid hno).1 h
        have := hname.length_lt
        obtain ⟨pre, hpre, hvertex⟩ := readVertex_sound hname
        obtain ⟨pre', hmid, hs⟩ := readAfter_sound hafter (.vertex hvertex)
        exact ⟨pre ++ pre', by simp [hpre, hmid], hs⟩
    · exact absurd h (not_gives_statement (notAt_cons.2 hdefaults) (notAt_cons.2 hgroup) (notAt_cons.2 hid))
termination_by (ts.length, 4)

theorem readStatements_sound {b : List Statement} {ts rest : List Token} (h : Gives (readStatements ts) b rest) :
    ∃ pre, ts = pre ++ rest ∧ Statements b pre := by
  by_cases hstop : ts = [] ∨ ¬ NotAt (Token.Mark '\x7d') ts
  · obtain ⟨rfl, rfl⟩ := (gives_statements_stop hstop).1 h
    exact ⟨[], rfl, .nil⟩
  · obtain ⟨hne, hmark⟩ := not_or.1 hstop
    obtain ⟨s, mid, hs, more, _, hmore, rfl, rfl⟩ := (gives_statements_more hne (Classical.not_not.1 hmark)).1 h
    have := hs.length_lt
    have := skipSeparators_length mid
    obtain ⟨pre, hpre, hderives⟩ := readStatement_sound hs
    obtain ⟨seps, hmid, hseps⟩ := skipSeparators_sound mid
    obtain ⟨pre', hrest, hderives'⟩ := readStatements_sound hmore
    refine ⟨pre ++ seps ++ pre', ?_, .cons hderives hseps hderives'⟩
    rw [hpre, hmid, hrest]; simp
termination_by (ts.length, 5)

end

/-! ## Completeness -/

/-- What lets a statement go on: a vertex that goes on, an attribute list, a value or an arrow. -/
def Token.Continues (t : Token) : Prop := t.JoinsVertex ∨ t.Mark '[' ∨ t.Mark '=' ∨ t.Arrow

theorem Token.Begins.not_continues {t : Token} (h : t.Begins) : ¬ t.Continues := by
  rintro ((hm | hm) | hm | hm | ha)
  · exact h.not_mark (by decide) hm
  · exact h.not_mark (by decide) hm
  · exact h.not_mark (by decide) hm
  · exact h.not_mark (by decide) hm
  · exact h.1 ha

theorem Token.Mark.not_arrow {t : Token} {c : Char} (h : t.Mark c) : ¬ t.Arrow := by
  rintro ⟨d, hd⟩
  rw [Mark, hd] at h; cases h

theorem Token.Mark.not_continues {t : Token} {c : Char} (h : t.Mark c) (hc : c ∉ ['+', ':', '[', '=']) :
    ¬ t.Continues := by
  have hne : ∀ d ∈ ['+', ':', '[', '='], ¬ t.Mark d := fun d hd => h.ne fun he => hc (he ▸ hd)
  rintro ((hm | hm) | hm | hm | ha)
  · exact hne '+' (by decide) hm
  · exact hne ':' (by decide) hm
  · exact hne '[' (by decide) hm
  · exact hne '=' (by decide) hm
  · exact h.not_arrow ha

theorem Token.Separator.not_continues {t : Token} (h : t.Separator) : ¬ t.Continues :=
  h.elim (fun hm => hm.not_continues (by decide)) fun hm => hm.not_continues (by decide)

theorem Token.Arrow.not_mark {t : Token} (h : t.Arrow) (c : Char) : ¬ t.Mark c := fun hm => hm.not_arrow h

namespace Grammar

theorem Block.cons {body : List Dot.Statement} {ts : List Token} (h : Block body ts) :
    ∃ t us, ts = t :: us ∧ t.OpensGroup := by
  obtain ⟨hhead, hopen, -, -⟩ := h
  cases hhead with
  | bare => exact ⟨_, _, rfl, .inr hopen⟩
  | named hkeyword _ => exact ⟨_, _, rfl, .inl hkeyword⟩

theorem Endpoint.cons {e : Dot.Endpoint} {ts : List Token} (h : Endpoint e ts) :
    ∃ t us, ts = t :: us ∧ t.Begins := by
  cases h with
  | vertex hname =>
    obtain ⟨t, us, rfl, ht, -⟩ := hname.cons
    exact ⟨t, us, rfl, Token.begins_of_isIdentifier ht⟩
  | group hbody =>
    obtain ⟨t, us, rfl, ht⟩ := hbody.cons
    exact ⟨t, us, rfl, ht.begins⟩

theorem Statement.cons {s : Dot.Statement} {ts : List Token} (h : Statement s ts) :
    ∃ t us, ts = t :: us ∧ t.Begins := by
  cases h with
  | defaults hkeyword _ _ => exact ⟨_, _, rfl, hkeyword.elim (·.begins) (·.elim (·.begins) (·.begins))⟩
  | assignment hkey _ _ => exact ⟨_, _, rfl, Token.begins_of_isIdentifier (Token.isIdentifier_iff.2 ⟨_, hkey⟩)⟩
  | vertex hname _ =>
    obtain ⟨t, us, rfl, ht⟩ := (Endpoint.vertex hname).cons
    exact ⟨t, _, rfl, ht⟩
  | edges hfirst _ _ _ =>
    obtain ⟨t, us, rfl, ht⟩ := hfirst.cons
    exact ⟨t, _, rfl, ht⟩
  | group hbody => exact (Endpoint.group hbody).cons

theorem Statements.notAt {P : Token → Prop} (hP : ∀ t : Token, t.Begins → ¬ P t)
    {b : List Dot.Statement} {ts rest : List Token} (h : Statements b ts) (hrest : NotAt P rest) :
    NotAt P (ts ++ rest) := by
  cases h with
  | nil => exact hrest
  | cons hs _ _ =>
    obtain ⟨t, _, rfl, ht⟩ := hs.cons
    exact notAt_cons.2 (hP t ht)

theorem Chain.notAt {P : Token → Prop} (hP : ∀ t : Token, t.Arrow → ¬ P t)
    {es : List Dot.Endpoint} {ts rest : List Token} (h : Chain es ts) (hrest : NotAt P rest) :
    NotAt P (ts ++ rest) := by
  cases h with
  | nil => exact hrest
  | cons harrow _ _ => exact notAt_cons.2 (hP _ harrow)

theorem Chain.not_notAt {es : List Dot.Endpoint} {ts : List Token} (h : Chain es ts) (hne : es ≠ [])
    (rest : List Token) : ¬ NotAt Token.Arrow (ts ++ rest) := by
  cases h with
  | nil => exact absurd rfl hne
  | cons harrow _ _ => exact fun hno => notAt_cons.1 hno harrow

end Grammar

/-- A statement that begins with a vertex is read on from the vertex. -/
theorem gives_statement_of_vertex {name : String} {s : Statement} {vs mid rest : List Token} (h : Vertex name vs)
    (hmid : NotAt Token.JoinsVertex mid) (heq : NotAt (Token.Mark '=') mid)
    (hafter : Gives (readAfter (.vertex name) mid) s rest) : Gives (readStatement (vs ++ mid)) s rest := by
  have hname := readVertex_complete h hmid
  obtain ⟨t, us, rfl, ht, hus⟩ := h.cons
  exact (gives_statement_vertex ht (hus mid heq)).2 ⟨name, mid, hname, s, rest, hafter, rfl, rfl⟩

/-- A statement that begins with a group is read on from the group. -/
theorem gives_statement_of_group {body : List Statement} {s : Statement} {bs mid rest : List Token}
    (h : Block body bs) (hbody : Gives (readGroup (bs ++ mid)) body mid)
    (hafter : Gives (readAfter (.group body) mid) s rest) : Gives (readStatement (bs ++ mid)) s rest := by
  obtain ⟨t, us, rfl, ht⟩ := h.cons
  exact (gives_statement_group ht).2 ⟨body, mid, hbody, s, rest, hafter, rfl, rfl⟩

mutual

theorem readGroup_complete {body : List Statement} {bs : List Token} (h : Block body bs) (rest : List Token) :
    Gives (readGroup (bs ++ rest)) body rest := by
  match h with
  | @Block.mk _ opening closing hs bs hhead hopen hbody hclose =>
    have hassoc : hs ++ opening :: bs ++ [closing] ++ rest = hs ++ opening :: (bs ++ closing :: rest) := by simp
    rw [hassoc]
    exact gives_group.2 ⟨_, _, readGroupHead_complete hhead hopen _, readStatements_complete hbody hclose rest,
      gives_mark.2 ⟨closing, rfl, hclose⟩⟩

theorem readEndpoint_complete {e : Endpoint} {es rest : List Token} (h : Grammar.Endpoint e es)
    (hrest : NotAt Token.JoinsVertex rest) : Gives (readEndpoint (es ++ rest)) e rest := by
  match h with
  | .vertex hname =>
    have hgives := readVertex_complete hname hrest
    obtain ⟨t, us, rfl, ht, -⟩ := hname.cons
    refine (gives_endpoint_vertex (notAt_cons.2 ?_)).2 ⟨_, _, hgives, rfl, rfl⟩
    exact Token.not_opensGroup_of_isIdentifier ht
  | .group hbody =>
    have hgives := readGroup_complete hbody rest
    obtain ⟨t, us, rfl, ht⟩ := hbody.cons
    exact (gives_endpoint_group fun hno => notAt_cons.1 hno ht).2 ⟨_, _, hgives, rfl, rfl⟩

theorem readChain_complete {es : List Endpoint} {ms rest : List Token} (h : Chain es ms)
    (hjoins : NotAt Token.JoinsVertex rest) (hstop : NotAt Token.Arrow rest) :
    Gives (readChain (ms ++ rest)) es rest := by
  match h with
  | .nil => exact (gives_chain_stop hstop).2 ⟨rfl, rfl⟩
  | @Chain.cons arrow e more es ts harrow he hmore =>
    rw [List.cons_append, List.cons_append, List.append_assoc]
    -- behind an end of an edge stands the next arrow or what is behind the chain
    refine (gives_chain_more harrow).2
      ⟨_, _, readEndpoint_complete he ?_, _, _, readChain_complete hmore hjoins hstop, rfl, rfl⟩
    refine hmore.notAt (fun t ht => ?_) hjoins
    rintro (hm | hm)
    · exact ht.not_mark _ hm
    · exact ht.not_mark _ hm

theorem readStatement_complete {s : Statement} {ss rest : List Token} (h : Grammar.Statement s ss)
    (hrest : NotAt Token.Continues rest) : Gives (readStatement (ss ++ rest)) s rest := by
  have hbracket : NotAt (Token.Mark '[') rest := hrest.mono fun _ hm => .inr (.inl hm)
  have harrow : NotAt Token.Arrow rest := hrest.mono fun _ ha => .inr (.inr (.inr ha))
  have hjoins : NotAt Token.JoinsVertex rest := hrest.mono fun _ => .inl
  have heq : NotAt (Token.Mark '=') rest := hrest.mono fun _ hm => .inr (.inr (.inl hm))
  match h with
  | @Grammar.Statement.defaults keyword as ts hkeyword has hne =>
    refine (gives_statement_defaults hkeyword).2 ⟨?_, _, _, readAttributeLists_complete has hbracket, rfl, rfl⟩
    cases has with
    | nil => exact absurd rfl hne
    | cons hopen _ _ _ => exact fun hno => notAt_cons.1 hno hopen
  | .assignment hkey hmark hvalue =>
    exact (gives_statement_assignment (Token.isIdentifier_iff.2 ⟨_, hkey⟩) hmark).2
      ⟨_, _, readIdentifier_complete hvalue (hjoins.mono fun _ => .inl), rfl, rfl⟩
  | @Grammar.Statement.vertex name as vs ts hname has =>
    rw [List.append_assoc]
    refine gives_statement_of_vertex hname (has.notAt ?_ hjoins) (has.notAt ?_ heq)
      ((gives_after_vertex (has.notAt ?_ harrow)).2 ⟨_, _, readAttributeLists_complete has hbracket, rfl, rfl⟩)
    · exact fun t ht => not_or.2 ⟨ht.ne (by decide), ht.ne (by decide)⟩
    · exact fun t ht => ht.ne (by decide)
    · exact fun t ht => ht.not_arrow
  | @Grammar.Statement.edges first more as fs ms ts hfirst hmore hne has =>
    have hjoins' : NotAt Token.JoinsVertex (ts ++ rest) :=
      has.notAt (fun t ht => not_or.2 ⟨ht.ne (by decide), ht.ne (by decide)⟩) hjoins
    have hchain := readChain_complete hmore hjoins' (has.notAt (fun t ht => ht.not_arrow) harrow)
    -- whichever the first end is, an arrow is behind it
    have hafter : ∀ first, Gives (readAfter first (ms ++ (ts ++ rest))) (.edges first more as) rest := fun first =>
      (gives_after_arrow (hmore.not_notAt hne _)).2
        ⟨_, _, hchain, _, _, readAttributeLists_complete has hbracket, rfl, rfl⟩
    rw [List.append_assoc, List.append_assoc]
    match hfirst with
    | .vertex hname =>
      refine gives_statement_of_vertex hname (hmore.notAt ?_ hjoins') (hmore.notAt ?_ (has.notAt ?_ heq)) (hafter _)
      · exact fun t ht => not_or.2 ⟨ht.not_mark _, ht.not_mark _⟩
      · exact fun t ht => ht.not_mark _
      · exact fun t ht => ht.ne (by decide)
    | .group hbody => exact gives_statement_of_group hbody (readGroup_complete hbody _) (hafter _)
  | .group hbody =>
    exact gives_statement_of_group hbody (readGroup_complete hbody rest) ((gives_after_group harrow).2 ⟨rfl, rfl⟩)

theorem readStatements_complete {b : List Statement} {bs : List Token} (h : Statements b bs) {closing : Token}
    (hclose : closing.Mark '\x7d') (rest : List Token) :
    Gives (readStatements (bs ++ closing :: rest)) b (closing :: rest) := by
  match h with
  | .nil => exact (gives_statements_stop (.inr fun hno => notAt_cons.1 hno hclose)).2 ⟨rfl, rfl⟩
  | @Statements.cons s more ss seps ts hs hseps hmore =>
    -- behind a statement stands a separator, another statement or the closing brace
    have hbehind : NotAt Token.Continues (seps ++ (ts ++ closing :: rest)) := by
      refine notAt_separators (fun t ht => ht.not_continues) hseps ?_
      exact hmore.notAt (fun t ht => ht.not_continues) (notAt_cons.2 (hclose.not_continues (by decide)))
    have hskip : skipSeparators (seps ++ (ts ++ closing :: rest)) = ts ++ closing :: rest := by
      refine skipSeparators_complete hseps (hmore.notAt (fun t ht => ht.not_separator) (notAt_cons.2 ?_))
      exact hclose.not_separator (by decide)
    have hone := readStatement_complete hs hbehind
    have hmany := readStatements_complete hmore hclose rest
    obtain ⟨t, us, rfl, ht⟩ := hs.cons
    rw [List.append_assoc, List.append_assoc]
    refine (gives_statements_more (List.cons_ne_nil _ _) (notAt_cons.2 (ht.not_mark (by decide)))).2
      ⟨s, _, hone, more, _, ?_, rfl, rfl⟩
    rw [hskip]; exact hmany

end

/-! ## Documents -/

section Ok

variable {α β : Type} {n : Nat} {d : β}

/-- Reading a part and making something of it. -/
theorem ok_bind {r : Reads α n} {f : Read α n → Except Problem β} {P : α → List Token → Prop}
    (h : ∀ a, f a = .ok d ↔ P a.value a.rest) : (r >>= f) = .ok d ↔ ∃ v mid, Gives r v mid ∧ P v mid := by
  constructor
  · intro hd
    cases r with
    | error p => cases hd
    | ok a => exact ⟨a.value, a.rest, ⟨a, rfl, rfl, rfl⟩, (h a).1 hd⟩
  · rintro ⟨v, mid, ⟨a, rfl, rfl, rfl⟩, hp⟩
    exact (h a).2 hp

end Ok

/-- What a document starts with, apart from strictness. -/
def Token.OpensDocument (t : Token) : Prop := t.Keyword "graph" ∨ t.Keyword "digraph"

theorem graphWord_ok {ts rest : List Token} :
    (if headIs (fun t => t.isKeyword "graph" || t.isKeyword "digraph") ts then
      (.ok (ts.drop 1) : Except Problem (List Token)) else problem .expectedGraph ts) = .ok rest ↔
        ∃ t, ts = t :: rest ∧ t.OpensDocument := by
  have hiff : ∀ t : Token, (t.isKeyword "graph" || t.isKeyword "digraph") = true ↔ t.OpensDocument := by
    intro t
    rw [Bool.or_eq_true, Token.isKeyword_iff, Token.isKeyword_iff]; rfl
  by_cases hno : NotAt Token.OpensDocument ts
  · rw [if_neg (headIs_of_notAt hno fun t => (hiff t).1)]
    refine iff_of_false (fun h => by cases h) ?_
    rintro ⟨t, rfl, ht⟩
    exact notAt_cons.1 hno ht
  · rw [if_pos (headIs_of_not_notAt hno fun t => (hiff t).2)]
    obtain ⟨t, us, rfl, ht⟩ := (at_or_notAt Token.OpensDocument ts).resolve_right hno
    constructor
    · intro h; cases h; exact ⟨t, rfl, ht⟩
    · rintro ⟨_, he, -⟩; cases he; rfl

theorem readGraphWord_ok {ts rest : List Token} :
    readGraphWord ts = .ok rest ↔ ∃ os, ts = os ++ rest ∧ Opening os := by
  have hstrict : ∀ {t : Token}, t.OpensDocument → ¬ t.Keyword "strict" := by
    rintro t (h | h) hs
    · exact absurd (h.unique hs) (by decide)
    · exact absurd (h.unique hs) (by decide)
  unfold readGraphWord
  dsimp only
  obtain ⟨t, us, rfl, ht⟩ | hno := at_or_notAt (Token.Keyword "strict") ts
  · rw [if_pos (show headIs (·.isKeyword "strict") (t :: us) = true by simpa [headIs] using ht), List.drop_one,
      List.tail_cons, graphWord_ok]
    constructor
    · rintro ⟨u, rfl, hu⟩; exact ⟨[t, u], rfl, .strict ht hu⟩
    · rintro ⟨os, hos, hopening⟩
      cases hopening with
      | plain hgraph => cases hos; exact absurd ht (hstrict hgraph)
      | strict _ hgraph => cases hos; exact ⟨_, rfl, hgraph⟩
  · rw [if_neg (headIs_of_notAt hno fun _ => Token.isKeyword_iff.1), graphWord_ok]
    constructor
    · rintro ⟨u, rfl, hu⟩; exact ⟨[u], rfl, .plain hu⟩
    · rintro ⟨os, rfl, hopening⟩
      cases hopening with
      | plain hgraph => exact ⟨_, rfl, hgraph⟩
      | strict hs _ => exact absurd hs (notAt_cons.1 hno)

theorem readDocument_ok {d : Document} {ts : List Token} :
    readDocument ts = .ok d ↔ ∃ mid, readGraphWord ts = .ok mid ∧
      ∃ name mid₁, Gives (readName mid) name mid₁ ∧
        ∃ u mid₂, Gives (readMark '\x7b' mid₁) u mid₂ ∧
          ∃ body mid₃, Gives (readStatements mid₂) body mid₃ ∧
            ∃ u' mid₄, Gives (readMark '\x7d' mid₃) u' mid₄ ∧ mid₄ = [] ∧ ⟨name, body⟩ = d := by
  unfold readDocument
  cases hword : readGraphWord ts with
  | error p =>
    refine iff_of_false (fun h => by cases h) ?_
    rintro ⟨mid, hmid, -⟩
    cases hmid
  | ok mid =>
    have hrest : ∀ {r : Except Problem Document} {P : List Token → Prop}, (r = .ok d ↔ P mid) →
        (r = .ok d ↔ ∃ m, (.ok mid : Except Problem (List Token)) = .ok m ∧ P m) := by
      intro r P h
      rw [h]
      exact ⟨fun hp => ⟨mid, rfl, hp⟩, fun ⟨_, he, hp⟩ => by cases he; exact hp⟩
    refine hrest (ok_bind fun name => ok_bind fun head => ok_bind fun body => ok_bind fun close => ?_)
    by_cases hend : close.rest = []
    · rw [if_pos (List.isEmpty_iff.2 hend), and_iff_right hend]
      exact ⟨Except.ok.inj, congrArg Except.ok⟩
    · rw [if_neg (mt List.isEmpty_iff.1 hend)]
      exact iff_of_false (fun h => by cases h) fun h => hend h.1

/-- Reading a document is deriving it. -/
theorem readDocument_iff {d : Document} {ts : List Token} : readDocument ts = .ok d ↔ Grammar.Document d ts := by
  rw [readDocument_ok]
  constructor
  · rintro ⟨mid, hword, name, mid₁, hname, _, mid₂, hopen, body, mid₃, hbody, _, mid₄, hclose, rfl, rfl⟩
    obtain ⟨os, rfl, hos⟩ := readGraphWord_ok.1 hword
    obtain ⟨ns, rfl, hns⟩ := readName_sound hname
    obtain ⟨opening, rfl, hopening⟩ := gives_mark.1 hopen
    obtain ⟨bs, rfl, hbs⟩ := readStatements_sound hbody
    obtain ⟨closing, rfl, hclosing⟩ := gives_mark.1 hclose
    have hassoc : os ++ (ns ++ opening :: (bs ++ [closing])) = os ++ ns ++ opening :: bs ++ [closing] := by simp
    rw [hassoc]
    exact .mk hos hns hopening hbs hclosing
  · intro h
    cases h with
    | @mk name body opening closing os ns bs hos hname hopen hbody hclose =>
      have hassoc : os ++ ns ++ opening :: bs ++ [closing] = os ++ (ns ++ opening :: (bs ++ [closing])) := by simp
      rw [hassoc]
      exact ⟨_, readGraphWord_ok.2 ⟨os, rfl, hos⟩, name, _, readName_complete hname hopen, (), _,
        gives_mark.2 ⟨opening, rfl, hopen⟩, body, _, readStatements_complete hbody hclose [], (), _,
        gives_mark.2 ⟨closing, rfl, hclose⟩, rfl, rfl⟩

/-- Tokens are read as a document exactly when the grammar derives it from them; all other tokens are
refused, and every refusal is reported as a syntax error. -/
theorem ofTokens_iff_derives (ts : List Token) :
    (∀ d, Document.ofTokens ts = .ok d ↔ Grammar.Document d ts) ∧
      ((∃ f, Document.ofTokens ts = .error f ∧ ∀ source, (f.report source).kind.name = "DotSyntaxError") ↔
        ¬ ∃ d, Grammar.Document d ts) := by
  unfold Document.ofTokens
  cases hread : readDocument ts with
  | ok d =>
    have hd := readDocument_iff.1 hread
    refine ⟨fun d' => ?_, iff_of_false ?_ (not_not_intro ⟨d, hd⟩)⟩
    · rw [← readDocument_iff, hread]
      constructor
      · intro h; cases h; rfl
      · intro h; cases h; rfl
    · rintro ⟨f, hf, -⟩
      cases hf
  | error p =>
    have hnone : ¬ ∃ d, Grammar.Document d ts := by
      rintro ⟨d, hd⟩
      rw [readDocument_iff.2 hd] at hread
      cases hread
    refine ⟨fun d => iff_of_false (fun h => by cases h) fun hd => hnone ⟨d, hd⟩, iff_of_true ?_ hnone⟩
    exact ⟨_, rfl, fun source => rfl⟩

end StateTraces.Dot
