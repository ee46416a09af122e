import StateTraces.Proofs.Dot.Lexicon
import StateTraces.Proofs.Dot.Outcome
import StateTraces.Proofs.Dot.Reading

/-
Readers notice at once that something is wrong. A reader is prompt for a rule if it takes what the rule
derives, or else refuses the first token that no continuation of the tokens before it can have. Both depend
on one token of lookahead only: with another text behind that token, the reader does the same. Readers that
are put together from prompt readers are prompt, provided that whatever the first one takes can still be
completed. There is one lemma for each reader.
-/

namespace StateTraces.Dot

open Grammar

theorem Gives.outcome {α : Type} {n : Nat} {r : Reads α n} {v : α} {rest : List Token} (h : Gives r v rest) :
    Dot.outcome r = .ok (v, rest) := by
  obtain ⟨a, rfl, rfl, rfl⟩ := h
  rfl

/-! ## Completions -/

/-- The tokens can be completed to some that the rule derives, by tokens that can be written. -/
def Viable {α : Type} (N : α → List Token → Prop) (pre : List Token) : Prop :=
  ∃ v more, (∀ t ∈ more, ∃ word, Spells t.lexeme word) ∧ N v (pre ++ more)

/-- The reader takes what the rule derives, or it refuses the first token that cannot stand behind those
before it. The tokens behind that one do not matter. -/
inductive Prompt {α : Type} (N : α → List Token → Prop) (f : Reader α) (ts : List Token) : Prop
  | takes {v : α} {pre rest : List Token} (hts : ts = pre ++ rest) (hv : N v pre)
      (h : ∀ rest', rest'.head? = rest.head? → f (pre ++ rest') = .ok (v, rest'))
  | refuses {p : Problem} {pre rest : List Token} (hts : ts = pre ++ rest) (hp : p.token? = rest.head?)
      (hviable : Viable N pre) (h : ∀ rest', rest'.head? = rest.head? → f (pre ++ rest') = .error p)

section Viable

variable {α β : Type} {N : α → List Token → Prop} {M : β → List Token → Prop} {pre more : List Token} {v : α}

theorem viable_of (h : N v pre) : Viable N pre := ⟨v, [], List.forall_mem_nil _, by rwa [List.append_nil]⟩

theorem Viable.append (h : Viable N (pre ++ more)) (hmore : ∀ t ∈ more, ∃ word, Spells t.lexeme word) :
    Viable N pre := by
  obtain ⟨v, last, hlast, hv⟩ := h
  exact ⟨v, more ++ last, List.forall_mem_append.2 ⟨hmore, hlast⟩, by rwa [← List.append_assoc]⟩

/-- A completion may be completed further. -/
theorem Viable.trans (h : Viable N pre) (hNM : ∀ v ts, N v ts → Viable M ts) : Viable M pre := by
  obtain ⟨v, more, hmore, hv⟩ := h
  exact (hNM v _ hv).append hmore

theorem Viable.of_append (h : Viable (fun v qs => N v (pre ++ qs)) more) : Viable N (pre ++ more) := by
  obtain ⟨v, last, hlast, hv⟩ := h
  exact ⟨v, last, hlast, by rwa [List.append_assoc]⟩

theorem viable_cons {t : Token} : Viable (fun v qs => N v (t :: qs)) more ↔ Viable N (t :: more) := Iff.rfl

/-- A mark completes the tokens. -/
theorem viable_mark {c : Char} (hc : c ∈ marks) (h : ∀ t : Token, t.Mark c → Viable N (pre ++ [t])) : Viable N pre :=
  (h ⟨.mark c, .start⟩ rfl).append (List.forall_mem_singleton.2 ⟨_, .mark hc⟩)

/-- An empty quoted text completes the tokens. -/
theorem viable_quoted (h : ∀ t : Token, t.lexeme = .quoted "" → Viable N (pre ++ [t])) : Viable N pre :=
  (h ⟨.quoted "", .start⟩ rfl).append (List.forall_mem_singleton.2 ⟨_, .quoted .nil⟩)

end Viable

section Prompt

variable {α β : Type} {N : α → List Token → Prop} {M : β → List Token → Prop} {f f' : Reader α} {ts us : List Token}
  {t : Token} {v : α} {p : Problem}

theorem NotAt.congr {P : Token → Prop} (h : NotAt P ts) (hhead : us.head? = ts.head?) : NotAt P us := by
  unfold NotAt at h ⊢
  rwa [hhead]

theorem head?_append_of {pre rest rest' : List Token} (h : rest'.head? = rest.head?) :
    (pre ++ rest').head? = (pre ++ rest).head? := by
  rw [List.head?_append, List.head?_append, h]

theorem Prompt.congr (h : Prompt N f ts) (hf : ∀ ts', ts'.head? = ts.head? → f' ts' = f ts') : Prompt N f' ts := by
  cases h with
  | @takes v pre rest hts hv h =>
    subst hts
    exact .takes rfl hv fun rest' hrest => (hf _ (head?_append_of hrest)).trans (h rest' hrest)
  | @refuses p pre rest hts hp hviable h =>
    subst hts
    exact .refuses rfl hp hviable fun rest' hrest => (hf _ (head?_append_of hrest)).trans (h rest' hrest)

theorem Prompt.imp {N' : α → List Token → Prop} (h : Prompt N f ts) (hN : ∀ v qs, N v qs → N' v qs) :
    Prompt N' f ts := by
  cases h with
  | takes hts hv h => exact .takes hts (hN _ _ hv) h
  | refuses hts hp hviable h => exact .refuses hts hp (hviable.trans fun v qs hv => viable_of (hN v qs hv)) h

/-- Nothing is taken. -/
theorem Prompt.stop_nil (hv : N v []) (h : f [] = .ok (v, [])) : Prompt N f [] :=
  .takes rfl hv fun rest' hrest => by rw [List.head?_eq_none_iff.1 hrest]; exact h

theorem Prompt.stop_cons (hv : N v []) (h : ∀ us, f (t :: us) = .ok (v, t :: us)) : Prompt N f (t :: us) :=
  .takes (List.nil_append _).symm hv fun rest' hrest => by
    obtain ⟨us', rfl⟩ := List.head?_eq_some_iff.1 hrest
    exact h us'

/-- The first token is refused, or the end of the text. -/
theorem Prompt.refuse_nil {c : Complaint} (hviable : Viable N []) (h : f [] = problem c []) : Prompt N f [] :=
  .refuses (p := ⟨c, none⟩) rfl rfl hviable fun rest' hrest => by
    rw [List.head?_eq_none_iff.1 hrest]; exact h

theorem Prompt.refuse_cons {c : Complaint} (hviable : Viable N []) (h : ∀ us, f (t :: us) = problem c (t :: us)) :
    Prompt N f (t :: us) :=
  .refuses (p := ⟨c, some t⟩) (List.nil_append _).symm rfl hviable fun rest' hrest => by
    obtain ⟨us', rfl⟩ := List.head?_eq_some_iff.1 hrest
    exact h us'

/-- Whatever comes is refused. -/
theorem problem_prompt {c : Complaint} (hviable : Viable N []) (ts : List Token) : Prompt N (problem c) ts := by
  cases ts with
  | nil => exact .refuse_nil hviable rfl
  | cons t ts => exact .refuse_cons hviable fun _ => rfl

/-- The first token is taken, whatever is behind it. -/
theorem Prompt.cons (hg : Prompt (fun v qs => N v (t :: qs)) f' us)
    (hf : ∀ us', us'.head? = us.head? → f (t :: us') = f' us') : Prompt N f (t :: us) := by
  have hg : Prompt (fun v qs => N v (t :: qs)) (fun us => f (t :: us)) us := hg.congr hf
  cases hg with
  | @takes v pre rest hts hv h => exact .takes (congrArg (t :: ·) hts) hv h
  | @refuses p pre rest hts hp hviable h =>
    exact .refuses (congrArg (t :: ·) hts) hp (viable_cons.1 hviable) h

/-- A reader that takes a token is prompt behind it. -/
theorem Prompt.tail {rest : List Token} (h : Prompt N f (t :: us)) (hok : f [t] = .ok (v, rest))
    (hne : ∀ v, ¬ N v []) : Prompt (fun v qs => N v (t :: qs)) (fun us => f (t :: us)) us := by
  cases h with
  | @takes v pre rest hts hv h =>
    cases pre with
    | nil => exact absurd hv (hne v)
    | cons t' pre => cases hts; exact .takes rfl hv h
  | @refuses p pre rest hts hp hviable h =>
    cases pre with
    | nil =>
      cases hts
      have := h [t] rfl
      rw [List.nil_append, hok] at this
      cases this
    | cons t' pre =>
      cases hts
      exact .refuses rfl hp (viable_cons.2 hviable) h

/-- One reader after another. What the first one takes can be completed, so the second one has to be prompt
behind it. -/
theorem Prompt.bind {g : α → Reader β} (hf : Prompt N f ts) (hviable : ∀ v pre, N v pre → Viable M pre)
    (hg : ∀ v pre rest, ts = pre ++ rest → N v pre → Prompt (fun w qs => M w (pre ++ qs)) (g v) rest) :
    Prompt M (fun ts => andThen (f ts) g) ts := by
  cases hf with
  | refuses hts hp hpre h =>
    refine .refuses hts hp (hpre.trans hviable) fun rest' hrest => ?_
    rw [h rest' hrest]; rfl
  | @takes v pre rest hts hv h =>
    have hstep : ∀ pre' rest' rest'' : List Token, rest = pre' ++ rest' → rest''.head? = rest'.head? →
        andThen (f (pre ++ pre' ++ rest'')) g = g v (pre' ++ rest'') := by
      rintro pre' rest' rest'' rfl hhead
      rw [List.append_assoc, h _ (head?_append_of hhead)]
      rfl
    cases hg v pre rest hts hv with
    | @takes w pre' rest' hrest hw h' =>
      refine .takes (by rw [hts, hrest, ← List.append_assoc]) hw fun rest'' hhead => ?_
      rw [hstep pre' rest' rest'' hrest hhead, h' rest'' hhead]
    | @refuses p pre' rest' hrest hp hviable' h' =>
      refine .refuses (by rw [hts, hrest, ← List.append_assoc]) hp hviable'.of_append fun rest'' hhead => ?_
      rw [hstep pre' rest' rest'' hrest hhead, h' rest'' hhead]

/-- Making something of what was read. -/
theorem Prompt.map {g : α → Reader β} (hf : Prompt N f ts)
    (hg : ∀ v qs, N v qs → ∃ w, M w qs ∧ ∀ rest, g v rest = .ok (w, rest)) :
    Prompt M (fun ts => andThen (f ts) g) ts := by
  refine hf.bind (fun v qs hv => ?_) fun v pre rest _ hv => ?_
  · obtain ⟨w, hw, -⟩ := hg v qs hv
    exact viable_of hw
  · obtain ⟨w, hw, hrest⟩ := hg v pre hv
    exact .takes (List.nil_append _).symm (by rwa [List.append_nil]) fun rest' _ => hrest rest'

/-- One reader after another, whose values are put together. -/
theorem Prompt.seq {γ : Type} {P : γ → List Token → Prop} {g : α → Reader γ} {k : α → γ → β} (hf : Prompt N f ts)
    (hg : ∀ v pre rest, ts = pre ++ rest → N v pre → Prompt P (g v) rest) (hviable : Viable P [])
    (hM : ∀ v pre w qs, N v pre → P w qs → M (k v w) (pre ++ qs)) :
    Prompt M (fun ts => andThen (f ts) fun v rest => andThen (g v rest) fun w rest => .ok (k v w, rest)) ts := by
  refine hf.bind (fun v pre hv => ?_) fun v pre rest hts hv => ?_
  · obtain ⟨w, more, hmore, hw⟩ := hviable
    exact ⟨k v w, more, hmore, hM v pre w more hv hw⟩
  · exact (hg v pre rest hts hv).map fun w qs hw => ⟨k v w, hM v pre w qs hv hw, fun _ => rfl⟩

end Prompt

/-! ## Marks and separators -/

variable {ts : List Token}

theorem readMark_prompt {c : Char} (hc : c ∈ marks) (ts : List Token) :
    Prompt (fun _ qs => ∃ t, qs = [t] ∧ t.Mark c) (fun ts => outcome (readMark c ts)) ts := by
  have hviable : Viable (fun (_ : Unit) qs => ∃ t, qs = [t] ∧ t.Mark c) [] :=
    viable_mark hc fun t ht => viable_of (v := ()) ⟨t, rfl, ht⟩
  cases ts with
  | nil => exact .refuse_nil hviable rfl
  | cons t ts =>
    by_cases ht : t.Mark c
    · have hread : ∀ us, outcome (readMark c (t :: us)) = .ok ((), us) := fun us =>
        (gives_mark.2 ⟨t, rfl, ht⟩).outcome
      exact .takes (List.singleton_append).symm ⟨t, rfl, ht⟩ fun us _ => hread us
    · refine .refuse_cons (c := .expectedMark c (some t.value)) hviable fun us => ?_
      rw [readMark, if_neg (mt Token.isMark_iff.1 ht)]
      rfl

/-- Separators are taken as long as there are any. -/
theorem skipSeparators_prompt (ts : List Token) :
    Prompt (fun _ qs => ∀ t ∈ qs, t.Separator) (fun ts => .ok ((), skipSeparators ts)) ts := by
  obtain ⟨seps, hts, hseps⟩ := skipSeparators_sound ts
  have hstop : NotAt Token.Separator (skipSeparators ts) := by
    intro t ht hsep
    have hno := List.head?_dropWhile_not Token.isSeparator ts
    rw [← skipSeparators, ht] at hno
    exact Bool.false_ne_true (hno.symm.trans (Token.isSeparator_iff.2 hsep))
  refine .takes (v := ()) hts hseps fun rest' hhead => ?_
  rw [skipSeparators_complete hseps (hstop.congr hhead)]

/-- Something, with the separators behind it. -/
def Trailed {α : Type} (N : α → List Token → Prop) (v : α) (ts : List Token) : Prop :=
  ∃ pre seps, ts = pre ++ seps ∧ N v pre ∧ ∀ t ∈ seps, t.Separator

/-- A reader that takes the separators behind what it reads. -/
theorem Prompt.trailed {α : Type} {N : α → List Token → Prop} {f : Reader α} (hf : Prompt N f ts) :
    Prompt (Trailed N) (fun ts => andThen (f ts) fun v rest => .ok (v, skipSeparators rest)) ts := by
  have htrailed : ∀ {v pre}, N v pre → Trailed N v pre := fun hv =>
    ⟨_, [], (List.append_nil _).symm, hv, List.forall_mem_nil _⟩
  refine hf.bind (fun v pre hv => viable_of (htrailed hv)) fun v pre rest _ hv => ?_
  exact (skipSeparators_prompt rest).map (g := fun _ rest => .ok (v, rest)) fun _ seps hseps =>
    ⟨v, ⟨pre, seps, rfl, hv, hseps⟩, fun _ => rfl⟩

/-! ## Identifiers -/

theorem readJoined_stop {before : String} (h : NotAt (Token.Mark '+') ts) :
    outcome (readJoined before ts) = .ok (before, ts) := by
  have := (readJoined_complete .nil h before).outcome
  rwa [List.nil_append, String.append_empty] at this

theorem readJoined_prompt (before : String) (ts : List Token) :
    Prompt (fun v qs => ∃ text, v = before ++ text ∧ Joined text qs) (fun ts => outcome (readJoined before ts)) ts := by
  have hnil : ∀ {before : String}, ∃ text, before = before ++ text ∧ Joined text [] := ⟨"", by simp, .nil⟩
  have hstop : ∀ {before : String} {t : Token}, ¬ t.isMark '+' = true →
      ∀ us, outcome (readJoined before (t :: us)) = .ok (before, t :: us) := fun ht us =>
    readJoined_stop (notAt_cons.2 (mt Token.isMark_iff.2 ht))
  -- behind a plus sign, a quoted text is always possible
  have hviable : ∀ {before : String} {t : Token}, t.Mark '+' →
      Viable (fun v qs => ∃ text, v = before ++ text ∧ Joined text (t :: qs)) [] := fun ht =>
    viable_quoted fun _ hu => viable_of ⟨_, rfl, .cons ht hu .nil⟩
  fun_induction readJoined before ts with
  | case1 before => exact .stop_nil hnil rfl
  | case2 before t hplus =>
    refine .cons (.refuse_nil (f := fun us => outcome (readJoined before (t :: us))) (c := .endOfText)
      (hviable (Token.isMark_iff.1 hplus)) ?_) fun _ _ => rfl
    rw [readJoined, if_pos hplus]
    rfl
  | case3 before t hplus => exact .stop_cons hnil (hstop hplus)
  | case4 before t next ts hplus s hs ih =>
    have hmore : Prompt (fun v qs => ∃ text, v = before ++ text ∧ Joined text (t :: next :: qs))
        (fun us => outcome (readJoined (before ++ s) us)) ts := by
      refine ih.imp fun v qs => ?_
      rintro ⟨text, rfl, hjoined⟩
      exact ⟨s ++ text, String.append_assoc, .cons (Token.isMark_iff.1 hplus) hs hjoined⟩
    have hnext : Prompt (fun v qs => ∃ text, v = before ++ text ∧ Joined text (t :: qs))
        (fun us => outcome (readJoined before (t :: us))) (next :: ts) := by
      refine hmore.cons fun us _ => ?_
      rw [readJoined, if_pos hplus, hs]
      exact outcome_same
    exact hnext.cons fun _ _ => rfl
  | case5 before t next ts hplus hs =>
    refine .cons (.refuse_cons (f := fun us => outcome (readJoined before (t :: us))) (c := .notQuoted)
      (hviable (Token.isMark_iff.1 hplus)) fun us => ?_) fun _ _ => rfl
    rw [readJoined, if_pos hplus]
    cases hnext : next.lexeme with
    | quoted s => exact absurd hnext (hs s)
    | _ => rfl
  | case6 before t next ts hplus => exact .stop_cons hnil (hstop hplus)

theorem viable_identifier : Viable Identifier [] := viable_quoted fun _ ht => viable_of (.quoted ht .nil)

theorem readIdentifier_prompt (ts : List Token) : Prompt Identifier (fun ts => outcome (readIdentifier ts)) ts := by
  cases ts with
  | nil => exact .refuse_nil viable_identifier rfl
  | cons t ts =>
    by_cases hid : t.isIdentifier = true
    · by_cases hquoted : ∃ s, t.lexeme = .quoted s
      · obtain ⟨s, hs⟩ := hquoted
        have hjoined : Prompt (fun v qs => Identifier v (t :: qs)) (fun us => outcome (readJoined s us)) ts := by
          refine (readJoined_prompt s ts).imp fun v qs => ?_
          rintro ⟨text, rfl, hjoined⟩
          exact .quoted hs hjoined
        refine hjoined.cons fun us _ => ?_
        rw [readIdentifier, if_pos hid, hs]
        exact outcome_same
      · obtain ⟨name, hname⟩ := Token.isIdentifier_iff.1 hid
        refine .takes (List.singleton_append).symm hname fun us _ => ?_
        cases hname with
        | quoted hs _ => exact absurd ⟨_, hs⟩ hquoted
        | word ht hw | numeral ht | angle ht =>
          rw [List.singleton_append, readIdentifier, if_pos hid, ht]
          show Except.ok (t.value, us) = _
          rw [Token.value, ht]; rfl
    · refine .refuse_cons (c := .expectedIdentifier (some t.value)) viable_identifier fun us => ?_
      rw [readIdentifier, if_neg hid]
      rfl

/-! ## Vertices -/

theorem readAnchors_prompt (ts : List Token) :
    Prompt (fun _ qs => Anchors qs) (fun ts => outcome (readAnchors ts)) ts := by
  match ts with
  | [] => exact .stop_nil (v := ()) .nil (by rw [readAnchors]; rfl)
  | t :: ts =>
    by_cases ht : t.Mark ':'
    · have hbind : Prompt (fun (_ : Unit) qs => Anchors (t :: qs)) (fun us =>
          andThen (outcome (readIdentifier us)) fun _ rest => andThen (outcome (readAnchors rest)) fun _ rest =>
            .ok ((), rest)) ts := by
        refine (readIdentifier_prompt ts).seq (fun place ps rest hts _ => ?_) (viable_of (v := ()) .nil)
          fun place ps _ qs hplace hmore => .cons ht hplace hmore
        have : rest.length < ts.length + 1 := by rw [hts, List.length_append]; omega
        exact readAnchors_prompt rest
      refine hbind.cons fun us _ => ?_
      rw [readAnchors, if_pos (Token.isMark_iff.2 ht)]
      exact outcome_bind fun place => outcome_bind fun more => rfl
    · refine .stop_cons (v := ()) .nil fun us => ?_
      rw [readAnchors, if_neg (mt Token.isMark_iff.1 ht)]
      rfl
termination_by ts.length

theorem readVertex_prompt (ts : List Token) : Prompt Grammar.Vertex (fun ts => outcome (readVertex ts)) ts := by
  have hbind : Prompt Grammar.Vertex (fun ts => andThen (outcome (readIdentifier ts)) fun name rest =>
      andThen (outcome (readAnchors rest)) fun _ rest => .ok (name, rest)) ts :=
    (readIdentifier_prompt ts).seq (fun _ _ rest _ _ => readAnchors_prompt rest) (viable_of (v := ()) .nil)
      fun name ns _ ps hname hplaces => .mk hname hplaces
  exact hbind.congr fun us _ => outcome_readVertex us

/-! ## Attributes -/

theorem readAttribute_prompt (ts : List Token) :
    Prompt Attribute (fun ts => outcome (readAttribute ts)) ts := by
  have hbind : Prompt Attribute (fun ts => andThen (outcome (readIdentifier ts)) readValue) ts := by
    refine (readIdentifier_prompt ts).bind (fun key ks hkey => viable_of (.flag hkey)) fun key ks rest _ hkey => ?_
    have hflag : Attribute (key, "true") (ks ++ []) := by rw [List.append_nil]; exact .flag hkey
    cases rest with
    | nil => exact .stop_nil hflag rfl
    | cons t us =>
      by_cases ht : t.Mark '='
      · have hvalue : Prompt (fun a qs => Attribute a (ks ++ t :: qs))
            (fun us => andThen (outcome (readIdentifier us)) fun value rest => .ok ((key, value), rest)) us :=
          (readIdentifier_prompt us).map fun value vs hv => ⟨(key, value), .pair hkey ht hv, fun _ => rfl⟩
        exact hvalue.cons fun us _ => if_pos (Token.isMark_iff.2 ht)
      · exact .stop_cons hflag fun us => if_neg (mt Token.isMark_iff.1 ht)
  exact hbind.congr fun us _ => outcome_readAttribute us

/-- Attributes with the closing bracket. -/
def Bracketed (as : List (String × String)) (ts : List Token) : Prop :=
  ∃ inner closing, ts = inner ++ [closing] ∧ Attributes as inner ∧ closing.Mark ']'

theorem bracketed_nil {t : Token} (ht : t.Mark ']') : Bracketed [] [t] := ⟨[], t, rfl, .nil, ht⟩

theorem Bracketed.cons {a : String × String} {more : List (String × String)} {pre qs : List Token}
    (ha : Trailed Attribute a pre) (h : Bracketed more qs) : Bracketed (a :: more) (pre ++ qs) := by
  obtain ⟨as, seps, rfl, ha, hseps⟩ := ha
  obtain ⟨inner, closing, rfl, hinner, hclose⟩ := h
  exact ⟨as ++ seps ++ inner, closing, by simp, .cons ha hseps hinner, hclose⟩

theorem viable_bracketed : Viable Bracketed [] :=
  viable_mark (c := ']') (by decide) fun _ ht => viable_of (bracketed_nil ht)

theorem readAttributes_prompt (ts : List Token) :
    Prompt Bracketed (fun ts => outcome (readAttributes ts)) ts := by
  by_cases hstop : NotAt (Token.Mark ']') ts
  · have hbind : Prompt Bracketed (fun ts =>
        andThen (andThen (outcome (readAttribute ts)) fun a rest => .ok (a, skipSeparators rest)) fun a rest =>
          andThen (outcome (readAttributes rest)) fun more rest => .ok (a :: more, rest)) ts := by
      refine (readAttribute_prompt ts).trailed.seq (fun a pre rest hts ha => ?_) viable_bracketed
        fun a pre more qs ha hmore => .cons ha hmore
      have : rest.length < ts.length := by
        obtain ⟨as, seps, rfl, ha, -⟩ := ha
        obtain ⟨t, us, rfl, -⟩ := ha.cons
        simp only [hts, List.length_append, List.length_cons]; omega
      exact readAttributes_prompt rest
    refine hbind.congr fun us hus => ?_
    rw [outcome_readAttributes, if_neg (headIs_of_notAt (hstop.congr hus) fun _ => Token.isMark_iff.1), andThen_skip]
  · obtain ⟨t, us, rfl, ht⟩ := (at_or_notAt (Token.Mark ']') ts).resolve_right hstop
    refine .takes (List.singleton_append).symm (bracketed_nil ht) fun us _ => ?_
    exact ((gives_attributes_stop ht).2 ⟨rfl, rfl⟩).outcome
termination_by ts.length

/-- An opening bracket is not left behind. -/
theorem readAttributeLists_prompt (ts : List Token) :
    Prompt (fun as qs => AttributeLists as qs ∧ (¬ NotAt (Token.Mark '[') ts → qs ≠ []))
      (fun ts => outcome (readAttributeLists ts)) ts := by
  match ts with
  | [] => exact .stop_nil ⟨.nil, fun hat => absurd notAt_nil hat⟩ (by rw [readAttributeLists]; rfl)
  | t :: ts =>
    by_cases ht : t.Mark '['
    · have hbind : Prompt
          (fun as qs => AttributeLists as (t :: qs) ∧ (¬ NotAt (Token.Mark '[') (t :: ts) → t :: qs ≠ []))
          (fun us => andThen (outcome (readAttributes us)) fun one rest =>
            andThen (outcome (readAttributeLists rest)) fun more rest => .ok (one ++ more, rest)) ts := by
        refine (readAttributes_prompt ts).seq (P := AttributeLists) (fun one pre rest hts _ => ?_) (viable_of .nil)
          fun one pre more qs hone hmore => ⟨?_, fun _ => List.cons_ne_nil _ _⟩
        · have : rest.length < ts.length + 1 := by rw [hts, List.length_append]; omega
          exact (readAttributeLists_prompt rest).imp fun _ _ h => h.1
        · obtain ⟨inner, closing, rfl, hinner, hclose⟩ := hone
          have hassoc : t :: (inner ++ [closing] ++ qs) = t :: inner ++ closing :: qs := by simp
          rw [hassoc]
          exact .cons ht hinner hclose hmore
      refine hbind.cons fun us _ => ?_
      rw [outcome_readAttributeLists, headIs_cons, if_pos (Token.isMark_iff.2 ht)]
      rfl
    · refine .stop_cons ⟨.nil, fun hat => absurd (notAt_cons.2 ht) hat⟩ fun us => ?_
      rw [readAttributeLists, if_neg (mt Token.isMark_iff.1 ht)]
      rfl
termination_by ts.length

end StateTraces.Dot
