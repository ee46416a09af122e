import StateTraces.Proofs.Dot.Grammar

/-
What the readers of names, vertices and attributes give, against the grammar. Each reader comes with
what it gives in terms of the readers it calls. From these, what a reader takes off the front of the
tokens is derived by the rule of that name, and what the rule derives is taken off whenever the
tokens behind it cannot continue it.
-/

namespace StateTraces.Dot

/-! ## Tokens -/

namespace Token

variable {t : Token}

@[simp] theorem isMark_iff {c : Char} : t.isMark c = true ↔ t.Mark c := by
  simp [isMark, Mark]

@[simp] theorem isArrow_iff : t.isArrow = true ↔ t.Arrow := by
  unfold isArrow Arrow
  cases t.lexeme <;> simp

@[simp] theorem isKeyword_iff {k : String} : t.isKeyword k = true ↔ t.Keyword k := by
  unfold isKeyword lowerWord? Keyword
  cases t.lexeme <;> simp

@[simp] theorem isSeparator_iff : t.isSeparator = true ↔ t.Separator := by
  simp [isSeparator, Separator]

@[simp] theorem opensGroup_iff : t.opensGroup = true ↔ t.Keyword "subgraph" ∨ t.Mark '\x7b' := by
  simp [opensGroup]

theorem isIdentifier_iff : t.isIdentifier = true ↔ ∃ name, Grammar.Identifier name [t] := by
  unfold isIdentifier
  constructor
  · intro h
    cases ht : t.lexeme with
    | word w => rw [ht] at h; exact ⟨w, .word ht (by simpa using h)⟩
    | numeral digits => exact ⟨digits, .numeral ht⟩
    | quoted s => exact ⟨s ++ "", .quoted ht .nil⟩
    | angle s => exact ⟨s, .angle ht⟩
    | arrow d => rw [ht] at h; cases h
    | mark c => rw [ht] at h; cases h
  · rintro ⟨name, h⟩
    cases h with
    | word ht hw => rw [ht]; simpa using hw
    | numeral ht => rw [ht]
    | angle ht => rw [ht]
    | quoted ht _ => rw [ht]

theorem Mark.ne {c d : Char} (h : t.Mark c) (hne : c ≠ d) : ¬ t.Mark d := by
  intro hd
  rw [Mark, h] at hd
  exact hne (Lexeme.mark.inj hd)

/-- A token that a statement can begin with: no arrow, and no mark but the opening brace. -/
def Begins (t : Token) : Prop := ¬ t.Arrow ∧ ∀ c, t.Mark c → c = '\x7b'

theorem begins_of_isIdentifier (h : t.isIdentifier = true) : t.Begins := by
  unfold isIdentifier at h
  constructor
  · rintro ⟨d, hd⟩; rw [hd] at h; cases h
  · intro c hc; rw [Mark] at hc; rw [hc] at h; cases h

theorem Keyword.begins {k : String} (h : t.Keyword k) : t.Begins := by
  obtain ⟨w, hw, -⟩ := h
  constructor
  · rintro ⟨d, hd⟩; rw [hw] at hd; cases hd
  · intro c hc; rw [Mark, hw] at hc; cases hc

theorem Mark.begins (h : t.Mark '\x7b') : t.Begins := by
  constructor
  · rintro ⟨d, hd⟩; rw [Mark, hd] at h; cases h
  · intro c hc; rw [Mark, h] at hc; exact (Lexeme.mark.inj hc).symm

theorem Begins.not_mark {c : Char} (h : t.Begins) (hc : c ≠ '\x7b') : ¬ t.Mark c := fun hm => hc (h.2 c hm)

theorem Mark.not_separator {c : Char} (h : t.Mark c) (hc : c ∉ [';', ',']) : ¬ t.Separator := by
  rintro (hm | hm)
  · exact h.ne (fun he => hc (by simp [he])) hm
  · exact h.ne (fun he => hc (by simp [he])) hm

theorem Begins.not_separator (h : t.Begins) : ¬ t.Separator :=
  not_or.2 ⟨h.not_mark (by decide), h.not_mark (by decide)⟩

end Token

/-- The tokens do not start with one of a kind. -/
def NotAt (P : Token → Prop) (ts : List Token) : Prop := ∀ t ∈ ts.head?, ¬ P t

section NotAt

variable {P Q : Token → Prop} {t : Token} {ts : List Token}

theorem notAt_nil : NotAt P [] := fun _ h => by cases h

@[simp] theorem notAt_cons : NotAt P (t :: ts) ↔ ¬ P t := by simp [NotAt]

theorem NotAt.mono (h : NotAt P ts) (hpq : ∀ t, Q t → P t) : NotAt Q ts := fun t ht hq => h t ht (hpq t hq)

theorem at_or_notAt (P : Token → Prop) (ts : List Token) : (∃ t rest, ts = t :: rest ∧ P t) ∨ NotAt P ts := by
  cases ts with
  | nil => exact .inr notAt_nil
  | cons t rest =>
    by_cases h : P t
    · exact .inl ⟨t, rest, rfl, h⟩
    · exact .inr (notAt_cons.2 h)

theorem headIs_of_notAt {p : Token → Bool} (h : NotAt P ts) (hp : ∀ t, p t = true → P t) :
    ¬ headIs p ts = true := by
  cases ts with
  | nil => exact Bool.false_ne_true
  | cons t ts => exact mt (hp t) (notAt_cons.1 h)

theorem headIs_of_not_notAt {p : Token → Bool} (h : ¬ NotAt P ts) (hp : ∀ t, P t → p t = true) :
    headIs p ts = true := by
  obtain ⟨t, rest, rfl, ht⟩ := (at_or_notAt P ts).resolve_right h
  simpa [headIs] using hp t ht

end NotAt

/-! ## What a reader gives -/

/-- The reader reads a value and leaves these tokens. -/
def Gives {α : Type} {n : Nat} (r : Reads α n) (v : α) (rest : List Token) : Prop :=
  ∃ a, r = .ok a ∧ a.value = v ∧ a.rest = rest

section Gives

variable {α β : Type} {m n : Nat} {v : α} {w : β} {rest : List Token}

theorem gives_ok {a : Read α n} : Gives (.ok a) v rest ↔ a.value = v ∧ a.rest = rest := by
  constructor
  · rintro ⟨b, hb, h⟩; cases hb; exact h
  · exact fun h => ⟨a, rfl, h⟩

theorem gives_pure {a : Read α n} : Gives (pure a : Reads α n) v rest ↔ a.value = v ∧ a.rest = rest := gives_ok

theorem not_gives_problem {c : Complaint} {ts : List Token} : ¬ Gives (problem c ts : Reads α n) v rest := by
  rintro ⟨a, ha, -⟩; cases ha

/-- Reading one thing after another, where the second one depends on what the first one gave. -/
theorem gives_bind {r : Reads α n} {f : Read α n → Reads β m} {P : α → List Token → Prop}
    (h : ∀ a, Gives (f a) w rest ↔ P a.value a.rest) :
    Gives (r >>= f) w rest ↔ ∃ v mid, Gives r v mid ∧ P v mid := by
  constructor
  · rintro ⟨b, hb, hw⟩
    cases r with
    | error p => cases hb
    | ok a => exact ⟨a.value, a.rest, ⟨a, rfl, rfl, rfl⟩, (h a).1 ⟨b, hb, hw⟩⟩
  · rintro ⟨v, mid, ⟨a, rfl, rfl, rfl⟩, hp⟩
    exact (h a).2 hp

/-- Reading something and giving it back. -/
theorem gives_same {r : Reads α n} {shorter : ∀ a : Read α n, a.rest.length < m} :
    Gives (r >>= fun a => pure (⟨a.value, a.rest, shorter a⟩ : Read α m)) v rest ↔ Gives r v rest := by
  have hbind : Gives (r >>= fun a => pure (⟨a.value, a.rest, shorter a⟩ : Read α m)) v rest ↔
      ∃ v' mid, Gives r v' mid ∧ v' = v ∧ mid = rest := gives_bind fun a => gives_pure
  rw [hbind]
  constructor
  · rintro ⟨_, _, hr, rfl, rfl⟩; exact hr
  · exact fun hr => ⟨v, rest, hr, rfl, rfl⟩

theorem Gives.length_lt {r : Reads α n} (h : Gives r v rest) : rest.length < n := by
  obtain ⟨a, rfl, -, rfl⟩ := h
  exact a.shorter

end Gives

open Grammar

/-! ## Marks and separators -/

theorem gives_mark {c : Char} {ts rest : List Token} :
    Gives (readMark c ts) () rest ↔ ∃ t, ts = t :: rest ∧ t.Mark c := by
  cases ts with
  | nil => simp [readMark, not_gives_problem]
  | cons t ts =>
    rw [readMark]
    by_cases h : t.Mark c
    · rw [if_pos (Token.isMark_iff.2 h), gives_ok]
      constructor
      · rintro ⟨-, rfl⟩; exact ⟨t, rfl, h⟩
      · rintro ⟨_, he, -⟩; cases he; exact ⟨rfl, rfl⟩
    · rw [if_neg (mt Token.isMark_iff.1 h)]
      refine ⟨fun hg => absurd hg not_gives_problem, ?_⟩
      rintro ⟨_, he, ht⟩
      cases he; exact absurd ht h

theorem skipSeparators_sound (ts : List Token) :
    ∃ seps, ts = seps ++ skipSeparators ts ∧ ∀ t ∈ seps, t.Separator := by
  refine ⟨ts.takeWhile Token.isSeparator, List.takeWhile_append_dropWhile.symm, fun t ht => ?_⟩
  exact Token.isSeparator_iff.1 (List.all_eq_true.1 (List.all_takeWhile ..) t ht)

theorem skipSeparators_complete {seps rest : List Token} (hseps : ∀ t ∈ seps, t.Separator)
    (h : NotAt Token.Separator rest) : skipSeparators (seps ++ rest) = rest := by
  unfold skipSeparators
  rw [List.dropWhile_append_of_pos fun t ht => Token.isSeparator_iff.2 (hseps t ht)]
  cases rest with
  | nil => rfl
  | cons t rest => rw [List.dropWhile_cons_of_neg]; exact mt Token.isSeparator_iff.1 (notAt_cons.1 h)

/-! ## Identifiers -/

theorem readJoined_sound {before v : String} {ts rest : List Token} (h : Gives (readJoined before ts) v rest) :
    ∃ text pre, v = before ++ text ∧ ts = pre ++ rest ∧ Joined text pre := by
  fun_induction readJoined before ts with
  | case1 before =>
    obtain ⟨rfl, rfl⟩ := gives_ok.1 h
    exact ⟨"", [], by simp, rfl, .nil⟩
  | case2 before t hplus => exact absurd h not_gives_problem
  | case3 before t hplus =>
    obtain ⟨rfl, rfl⟩ := gives_ok.1 h
    exact ⟨"", [], by simp, rfl, .nil⟩
  | case4 before t next ts hplus s hs ih =>
    obtain ⟨text, pre, rfl, rfl, hjoined⟩ := ih (gives_same.1 h)
    exact ⟨s ++ text, t :: next :: pre, String.append_assoc, rfl,
      .cons (Token.isMark_iff.1 hplus) hs hjoined⟩
  | case5 before t next ts hplus hs => exact absurd h not_gives_problem
  | case6 before t next ts hplus =>
    obtain ⟨rfl, rfl⟩ := gives_ok.1 h
    exact ⟨"", [], by simp, rfl, .nil⟩

theorem readJoined_complete {text : String} {pre rest : List Token} (h : Joined text pre)
    (hrest : NotAt (Token.Mark '+') rest) (before : String) :
    Gives (readJoined before (pre ++ rest)) (before ++ text) rest := by
  induction h generalizing before with
  | nil =>
    have hno : ∀ t ts, rest = t :: ts → ¬ t.isMark '+' = true := by
      rintro t ts rfl
      exact mt Token.isMark_iff.1 (notAt_cons.1 hrest)
    match rest, hno with
    | [], _ => exact gives_ok.2 ⟨by simp, rfl⟩
    | [t], hno => rw [List.nil_append, readJoined, if_neg (hno t _ rfl)]; exact gives_ok.2 ⟨by simp, rfl⟩
    | t :: next :: ts, hno =>
      rw [List.nil_append, readJoined, if_neg (hno t _ rfl)]
      exact gives_ok.2 ⟨by simp, rfl⟩
  | cons hplus ht _ ih =>
    rw [List.cons_append, List.cons_append, readJoined, if_pos (Token.isMark_iff.2 hplus), ht]
    rw [← String.append_assoc]
    exact gives_same.2 (ih _)

theorem readIdentifier_sound {v : String} {ts rest : List Token} (h : Gives (readIdentifier ts) v rest) :
    ∃ pre, ts = pre ++ rest ∧ Identifier v pre := by
  cases ts with
  | nil => exact absurd h not_gives_problem
  | cons t ts =>
    rw [readIdentifier] at h
    split at h
    · rename_i hid
      split at h
      · rename_i s hs
        obtain ⟨text, pre, rfl, rfl, hjoined⟩ := readJoined_sound (gives_same.1 h)
        exact ⟨t :: pre, rfl, .quoted hs hjoined⟩
      · rename_i hno
        obtain ⟨rfl, rfl⟩ := gives_ok.1 h
        refine ⟨[t], rfl, ?_⟩
        obtain ⟨name, hname⟩ := Token.isIdentifier_iff.1 hid
        cases hname with
        | word ht hw => simpa [Token.value, ht, Lexeme.value] using Identifier.word ht hw
        | numeral ht => simpa [Token.value, ht, Lexeme.value] using Identifier.numeral ht
        | angle ht => simpa [Token.value, ht, Lexeme.value] using Identifier.angle ht
        | quoted ht _ => exact absurd ht (hno _)
    · exact absurd h not_gives_problem

theorem Grammar.Identifier.cons {v : String} {ts : List Token} (h : Identifier v ts) :
    ∃ t rest, ts = t :: rest ∧ t.isIdentifier = true := by
  cases h with
  | word ht hw => exact ⟨_, _, rfl, Token.isIdentifier_iff.2 ⟨_, .word ht hw⟩⟩
  | numeral ht => exact ⟨_, _, rfl, Token.isIdentifier_iff.2 ⟨_, .numeral ht⟩⟩
  | angle ht => exact ⟨_, _, rfl, Token.isIdentifier_iff.2 ⟨_, .angle ht⟩⟩
  | quoted ht _ => exact ⟨_, _, rfl, Token.isIdentifier_iff.2 ⟨_, .quoted ht .nil⟩⟩

theorem readIdentifier_complete {v : String} {pre rest : List Token} (h : Identifier v pre)
    (hrest : NotAt (Token.Mark '+') rest) : Gives (readIdentifier (pre ++ rest)) v rest := by
  cases h with
  | word ht hw =>
    rw [List.singleton_append, readIdentifier, if_pos (Token.isIdentifier_iff.2 ⟨_, .word ht hw⟩), ht]
    exact gives_ok.2 ⟨by rw [Token.value, ht]; rfl, rfl⟩
  | numeral ht =>
    rw [List.singleton_append, readIdentifier, if_pos (Token.isIdentifier_iff.2 ⟨_, .numeral ht⟩), ht]
    exact gives_ok.2 ⟨by rw [Token.value, ht]; rfl, rfl⟩
  | angle ht =>
    rw [List.singleton_append, readIdentifier, if_pos (Token.isIdentifier_iff.2 ⟨_, .angle ht⟩), ht]
    exact gives_ok.2 ⟨by rw [Token.value, ht]; rfl, rfl⟩
  | quoted ht hmore =>
    rw [List.cons_append, readIdentifier, if_pos (Token.isIdentifier_iff.2 ⟨_, .quoted ht .nil⟩), ht]
    exact gives_same.2 (readJoined_complete hmore hrest _)

/-! ## Vertices -/

theorem gives_anchors_stop {ts rest : List Token} (h : NotAt (Token.Mark ':') ts) :
    Gives (readAnchors ts) () rest ↔ ts = rest := by
  cases ts with
  | nil => rw [readAnchors, gives_ok]; exact and_iff_right rfl
  | cons t ts =>
    rw [readAnchors, if_neg (mt Token.isMark_iff.1 (notAt_cons.1 h)), gives_ok]
    exact and_iff_right rfl

theorem gives_anchors_more {t : Token} {ts rest : List Token} (h : t.Mark ':') :
    Gives (readAnchors (t :: ts)) () rest ↔
      ∃ place mid, Gives (readIdentifier ts) place mid ∧ Gives (readAnchors mid) () rest := by
  rw [readAnchors, if_pos (Token.isMark_iff.2 h)]
  exact gives_bind fun place => gives_same

theorem readAnchors_sound {ts rest : List Token} (h : Gives (readAnchors ts) () rest) :
    ∃ pre, ts = pre ++ rest ∧ Anchors pre := by
  obtain ⟨t, ts, rfl, ht⟩ | hstop := at_or_notAt (Token.Mark ':') ts
  · obtain ⟨place, mid, hplace, hmore⟩ := (gives_anchors_more ht).1 h
    have := hplace.length_lt
    obtain ⟨ps, rfl, hps⟩ := readIdentifier_sound hplace
    obtain ⟨pre, rfl, hpre⟩ := readAnchors_sound hmore
    exact ⟨t :: (ps ++ pre), by simp, .cons ht hps hpre⟩
  · exact ⟨[], (gives_anchors_stop hstop).1 h, .nil⟩
termination_by ts.length

/-- What lets a vertex go on: another text or another place. -/
def Token.JoinsVertex (t : Token) : Prop := t.Mark '+' ∨ t.Mark ':'

theorem Grammar.Anchors.notAt {P : Token → Prop} (hP : ∀ t : Token, t.Mark ':' → ¬ P t) {ps rest : List Token}
    (h : Anchors ps) (hrest : NotAt P rest) : NotAt P (ps ++ rest) := by
  cases h with
  | nil => exact hrest
  | cons hcolon _ _ => exact notAt_cons.2 (hP _ hcolon)

theorem readAnchors_complete {ps rest : List Token} (h : Anchors ps) (hrest : NotAt Token.JoinsVertex rest) :
    Gives (readAnchors (ps ++ rest)) () rest := by
  induction h with
  | nil => exact (gives_anchors_stop (hrest.mono fun _ => .inr)).2 rfl
  | cons hcolon hplace hmore ih =>
    rw [List.cons_append, List.append_assoc]
    refine (gives_anchors_more hcolon).2 ⟨_, _, readIdentifier_complete hplace ?_, ih⟩
    exact Anchors.notAt (fun t ht => ht.ne (by decide)) hmore (hrest.mono fun _ => .inl)

theorem gives_vertex {name : String} {ts rest : List Token} :
    Gives (readVertex ts) name rest ↔
      ∃ mid, Gives (readIdentifier ts) name mid ∧ Gives (readAnchors mid) () rest := by
  have hbind : Gives (readVertex ts) name rest ↔ ∃ v mid, Gives (readIdentifier ts) v mid ∧
      ∃ u mid', Gives (readAnchors mid) u mid' ∧ v = name ∧ mid' = rest :=
    gives_bind fun a => gives_bind fun b => gives_pure
  rw [hbind]
  constructor
  · rintro ⟨_, mid, hname, _, _, hplaces, rfl, rfl⟩; exact ⟨mid, hname, hplaces⟩
  · rintro ⟨mid, hname, hplaces⟩; exact ⟨name, mid, hname, (), rest, hplaces, rfl, rfl⟩

theorem readVertex_sound {name : String} {ts rest : List Token} (h : Gives (readVertex ts) name rest) :
    ∃ pre, ts = pre ++ rest ∧ Vertex name pre := by
  obtain ⟨mid, hname, hplaces⟩ := gives_vertex.1 h
  obtain ⟨ns, rfl, hns⟩ := readIdentifier_sound hname
  obtain ⟨ps, rfl, hps⟩ := readAnchors_sound hplaces
  exact ⟨ns ++ ps, (List.append_assoc ..).symm, .mk hns hps⟩

theorem readVertex_complete {name : String} {vs rest : List Token} (h : Vertex name vs)
    (hrest : NotAt Token.JoinsVertex rest) : Gives (readVertex (vs ++ rest)) name rest := by
  obtain ⟨hname, hplaces⟩ := h
  rw [List.append_assoc]
  refine gives_vertex.2 ⟨_, readIdentifier_complete hname ?_, readAnchors_complete hplaces hrest⟩
  exact Anchors.notAt (fun t ht => ht.ne (by decide)) hplaces (hrest.mono fun _ => .inl)

/-- A vertex begins with an identifier, and no equals sign is behind the first token. -/
theorem Grammar.Vertex.cons {name : String} {vs : List Token} (h : Vertex name vs) :
    ∃ t us, vs = t :: us ∧ t.isIdentifier = true ∧
      ∀ rest, NotAt (Token.Mark '=') rest → NotAt (Token.Mark '=') (us ++ rest) := by
  obtain ⟨hname, hplaces⟩ := h
  have hanchors : ∀ rest, NotAt (Token.Mark '=') rest → NotAt (Token.Mark '=') (_ ++ rest) := fun rest =>
    hplaces.notAt fun t ht => ht.ne (by decide)
  cases hname with
  | word ht hw => exact ⟨_, _, rfl, Token.isIdentifier_iff.2 ⟨_, .word ht hw⟩, hanchors⟩
  | numeral ht => exact ⟨_, _, rfl, Token.isIdentifier_iff.2 ⟨_, .numeral ht⟩, hanchors⟩
  | angle ht => exact ⟨_, _, rfl, Token.isIdentifier_iff.2 ⟨_, .angle ht⟩, hanchors⟩
  | quoted ht hmore =>
    -- only a quoted text may have a plus sign behind it
    refine ⟨_, _, rfl, Token.isIdentifier_iff.2 ⟨_, .quoted ht .nil⟩, fun rest hrest => ?_⟩
    cases hmore with
    | nil => exact hanchors rest hrest
    | cons hplus _ _ => exact notAt_cons.2 (hplus.ne (by decide))

/-! ## Attributes -/

theorem gives_attribute {a : String × String} {ts rest : List Token} :
    Gives (readAttribute ts) a rest ↔ ∃ key mid, Gives (readIdentifier ts) key mid ∧
      ((∃ t mid' value, mid = t :: mid' ∧ t.Mark '=' ∧ Gives (readIdentifier mid') value rest ∧ a = (key, value)) ∨
        NotAt (Token.Mark '=') mid ∧ mid = rest ∧ a = (key, "true")) := by
  refine gives_bind fun key => ?_
  obtain ⟨key, mid, hshort⟩ := key
  cases mid with
  | nil =>
    rw [gives_pure]
    constructor
    · rintro ⟨rfl, rfl⟩; exact .inr ⟨notAt_nil, rfl, rfl⟩
    · rintro (⟨_, _, _, he, -⟩ | ⟨-, rfl, rfl⟩)
      · cases he
      · exact ⟨rfl, rfl⟩
  | cons t mid =>
    dsimp only
    by_cases ht : t.Mark '='
    · have hpair : ∀ {n} {shorter : ∀ b : Read String mid.length, b.rest.length < n},
          Gives (readIdentifier mid >>= fun b => pure (⟨(key, b.value), b.rest, shorter b⟩ : Read _ n)) a rest ↔
            ∃ value mid', Gives (readIdentifier mid) value mid' ∧ (key, value) = a ∧ mid' = rest :=
        gives_bind fun b => gives_pure
      rw [if_pos (Token.isMark_iff.2 ht), hpair]
      constructor
      · rintro ⟨value, _, hvalue, rfl, rfl⟩; exact .inl ⟨t, mid, value, rfl, ht, hvalue, rfl⟩
      · rintro (⟨_, _, value, he, -, hvalue, rfl⟩ | ⟨hno, -⟩)
        · cases he; exact ⟨value, rest, hvalue, rfl, rfl⟩
        · exact absurd ht (notAt_cons.1 hno)
    · rw [if_neg (mt Token.isMark_iff.1 ht), gives_pure]
      constructor
      · rintro ⟨rfl, rfl⟩; exact .inr ⟨notAt_cons.2 ht, rfl, rfl⟩
      · rintro (⟨_, _, _, he, heq, -⟩ | ⟨-, rfl, rfl⟩)
        · cases he; exact absurd heq ht
        · exact ⟨rfl, rfl⟩

theorem readAttribute_sound {a : String × String} {ts rest : List Token} (h : Gives (readAttribute ts) a rest) :
    ∃ pre, ts = pre ++ rest ∧ Attribute a pre := by
  obtain ⟨key, mid, hkey, hrest⟩ := gives_attribute.1 h
  obtain ⟨ks, rfl, hks⟩ := readIdentifier_sound hkey
  rcases hrest with ⟨t, mid', value, rfl, ht, hvalue, rfl⟩ | ⟨-, rfl, rfl⟩
  · obtain ⟨vs, rfl, hvs⟩ := readIdentifier_sound hvalue
    exact ⟨ks ++ t :: vs, by simp, .pair hks ht hvs⟩
  · exact ⟨ks, rfl, .flag hks⟩

theorem readAttribute_complete {a : String × String} {as rest : List Token} (h : Attribute a as)
    (hplus : NotAt (Token.Mark '+') rest) (heq : NotAt (Token.Mark '=') rest) :
    Gives (readAttribute (as ++ rest)) a rest := by
  cases h with
  | flag hkey => exact gives_attribute.2 ⟨_, _, readIdentifier_complete hkey hplus, .inr ⟨heq, rfl, rfl⟩⟩
  | pair hkey hmark hvalue =>
    rw [List.append_assoc]
    exact gives_attribute.2 ⟨_, _, readIdentifier_complete hkey (notAt_cons.2 (hmark.ne (by decide))),
      .inl ⟨_, _, _, rfl, hmark, readIdentifier_complete hvalue hplus, rfl⟩⟩

theorem gives_attributes_stop {t : Token} {as : List (String × String)} {ts rest : List Token}
    (h : t.Mark ']') : Gives (readAttributes (t :: ts)) as rest ↔ as = [] ∧ ts = rest := by
  rw [readAttributes, if_pos (by simpa [headIs] using h), gives_ok]
  exact and_congr_left' eq_comm

theorem gives_attributes_more {as : List (String × String)} {ts rest : List Token}
    (h : NotAt (Token.Mark ']') ts) :
    Gives (readAttributes ts) as rest ↔ ∃ a mid, Gives (readAttribute ts) a mid ∧
      ∃ more mid', Gives (readAttributes (skipSeparators mid)) more mid' ∧ a :: more = as ∧ mid' = rest := by
  rw [readAttributes, if_neg (headIs_of_notAt h fun _ => Token.isMark_iff.1)]
  exact gives_bind fun a => gives_bind fun more => gives_pure

theorem readAttributes_sound {as : List (String × String)} {ts rest : List Token}
    (h : Gives (readAttributes ts) as rest) :
    ∃ inner closing, ts = inner ++ closing :: rest ∧ Attributes as inner ∧ closing.Mark ']' := by
  obtain ⟨t, ts, rfl, ht⟩ | hstop := at_or_notAt (Token.Mark ']') ts
  · obtain ⟨rfl, rfl⟩ := (gives_attributes_stop ht).1 h
    exact ⟨[], t, rfl, .nil, ht⟩
  · obtain ⟨a, mid, ha, more, _, hmore, rfl, rfl⟩ := (gives_attributes_more hstop).1 h
    have := ha.length_lt
    have := skipSeparators_length mid
    obtain ⟨pre, rfl, hpre⟩ := readAttribute_sound ha
    obtain ⟨seps, hmid, hseps⟩ := skipSeparators_sound mid
    obtain ⟨inner, closing, hrest, hinner, hclose⟩ := readAttributes_sound hmore
    refine ⟨pre ++ seps ++ inner, closing, ?_, .cons hpre hseps hinner, hclose⟩
    rw [hmid, hrest]; simp
termination_by ts.length

theorem Grammar.Attribute.cons {a : String × String} {ts : List Token} (h : Attribute a ts) :
    ∃ t rest, ts = t :: rest ∧ t.isIdentifier = true := by
  cases h with
  | flag hkey => exact hkey.cons
  | pair hkey _ _ =>
    obtain ⟨t, rest, rfl, ht⟩ := hkey.cons
    exact ⟨t, _, rfl, ht⟩

theorem notAt_separators {P : Token → Prop} (hP : ∀ t : Token, t.Separator → ¬ P t) {seps rest : List Token}
    (hseps : ∀ t ∈ seps, t.Separator) (hrest : NotAt P rest) : NotAt P (seps ++ rest) := by
  cases seps with
  | nil => exact hrest
  | cons t seps => exact notAt_cons.2 (hP t (hseps t (List.mem_cons_self ..)))

theorem Grammar.Attributes.notAt {P : Token → Prop} (hP : ∀ t : Token, t.Begins → ¬ P t)
    {as : List (String × String)} {ts rest : List Token} (h : Attributes as ts) (hrest : NotAt P rest) :
    NotAt P (ts ++ rest) := by
  cases h with
  | nil => exact hrest
  | cons ha _ _ =>
    obtain ⟨t, _, rfl, ht⟩ := ha.cons
    exact notAt_cons.2 (hP t (Token.begins_of_isIdentifier ht))

theorem readAttributes_complete {as : List (String × String)} {inner : List Token} (h : Attributes as inner)
    {closing : Token} (hclose : closing.Mark ']') (rest : List Token) :
    Gives (readAttributes (inner ++ closing :: rest)) as rest := by
  induction h with
  | nil => exact (gives_attributes_stop hclose).2 ⟨rfl, rfl⟩
  | @cons a more pre seps ts ha hseps hmore ih =>
    -- behind an attribute stands a separator, another attribute or the closing bracket
    have hbehind : ∀ c, c ≠ ';' → c ≠ ',' → c ≠ ']' → c ≠ '\x7b' →
        NotAt (Token.Mark c) (seps ++ (ts ++ closing :: rest)) := by
      intro c h1 h2 h3 h4
      refine notAt_separators (fun t ht => ?_) hseps ?_
      · exact ht.elim (fun hm => hm.ne h1.symm) fun hm => hm.ne h2.symm
      · exact hmore.notAt (fun t ht => ht.not_mark h4) (notAt_cons.2 (hclose.ne h3.symm))
    have hskip : skipSeparators (seps ++ (ts ++ closing :: rest)) = ts ++ closing :: rest := by
      refine skipSeparators_complete hseps (hmore.notAt (fun t ht => ht.not_separator) (notAt_cons.2 ?_))
      exact hclose.not_separator (by decide)
    have hstart : NotAt (Token.Mark ']') (pre ++ (seps ++ (ts ++ closing :: rest))) := by
      obtain ⟨t, _, rfl, ht⟩ := ha.cons
      exact notAt_cons.2 ((Token.begins_of_isIdentifier ht).not_mark (by decide))
    rw [List.append_assoc, List.append_assoc]
    refine (gives_attributes_more hstart).2 ⟨a, _, readAttribute_complete ha ?_ ?_, more, _, ?_, rfl, rfl⟩
    · exact hbehind '+' (by decide) (by decide) (by decide) (by decide)
    · exact hbehind '=' (by decide) (by decide) (by decide) (by decide)
    · rw [hskip]; exact ih

theorem gives_attributeLists_stop {as : List (String × String)} {ts rest : List Token}
    (h : NotAt (Token.Mark '[') ts) : Gives (readAttributeLists ts) as rest ↔ as = [] ∧ ts = rest := by
  cases ts with
  | nil => rw [readAttributeLists, gives_ok, eq_comm]
  | cons t ts =>
    rw [readAttributeLists, if_neg (mt Token.isMark_iff.1 (notAt_cons.1 h)), gives_ok, eq_comm]

theorem gives_attributeLists_more {t : Token} {as : List (String × String)} {ts rest : List Token}
    (h : t.Mark '[') :
    Gives (readAttributeLists (t :: ts)) as rest ↔ ∃ one mid, Gives (readAttributes ts) one mid ∧
      ∃ more mid', Gives (readAttributeLists mid) more mid' ∧ one ++ more = as ∧ mid' = rest := by
  rw [readAttributeLists, if_pos (Token.isMark_iff.2 h)]
  exact gives_bind fun one => gives_bind fun more => gives_pure

/-- All lists are taken: no other one is left. -/
theorem readAttributeLists_sound {as : List (String × String)} {ts rest : List Token}
    (h : Gives (readAttributeLists ts) as rest) :
    ∃ pre, ts = pre ++ rest ∧ AttributeLists as pre ∧ NotAt (Token.Mark '[') rest := by
  obtain ⟨t, ts, rfl, ht⟩ | hstop := at_or_notAt (Token.Mark '[') ts
  · obtain ⟨one, mid, hone, more, _, hmore, rfl, rfl⟩ := (gives_attributeLists_more ht).1 h
    have := hone.length_lt
    obtain ⟨inner, closing, rfl, hinner, hclose⟩ := readAttributes_sound hone
    obtain ⟨pre, rfl, hpre, hend⟩ := readAttributeLists_sound hmore
    exact ⟨t :: inner ++ closing :: pre, by simp, .cons ht hinner hclose hpre, hend⟩
  · obtain ⟨rfl, rfl⟩ := (gives_attributeLists_stop hstop).1 h
    exact ⟨[], rfl, .nil, hstop⟩
termination_by ts.length

theorem Grammar.AttributeLists.notAt {P : Token → Prop} (hP : ∀ t : Token, t.Mark '[' → ¬ P t)
    {as : List (String × String)} {ts rest : List Token} (h : AttributeLists as ts) (hrest : NotAt P rest) :
    NotAt P (ts ++ rest) := by
  cases h with
  | nil => exact hrest
  | cons hopen _ _ _ => exact notAt_cons.2 (hP _ hopen)

theorem readAttributeLists_complete {as : List (String × String)} {pre rest : List Token}
    (h : AttributeLists as pre) (hrest : NotAt (Token.Mark '[') rest) :
    Gives (readAttributeLists (pre ++ rest)) as rest := by
  induction h with
  | nil => exact (gives_attributeLists_stop hrest).2 ⟨rfl, rfl⟩
  | @cons one more opening closing inner ts hopen hone hclose hmore ih =>
    have hassoc : opening :: inner ++ closing :: ts ++ rest = opening :: (inner ++ closing :: (ts ++ rest)) := by
      simp
    rw [hassoc]
    exact (gives_attributeLists_more hopen).2 ⟨one, _, readAttributes_complete hone hclose _, more, _, ih, rfl, rfl⟩

end StateTraces.Dot
