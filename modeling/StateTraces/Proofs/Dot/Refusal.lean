import StateTraces.Proofs.Dot.Prompt
import StateTraces.Proofs.Dot.Statements

/-
The readers of statements and documents are prompt. Statements, groups and edges are read by mutual
recursion, so their lemmas follow the number of tokens that are left, like the readers.
-/

namespace StateTraces.Dot

open Grammar

/-! ## Names -/

theorem readName_prompt (ts : List Token) : Prompt Name (fun ts => outcome (readName ts)) ts := by
  by_cases hno : NotAt (fun t => t.isIdentifier = true) ts
  · refine .takes (List.nil_append _).symm .none fun us hus => ?_
    exact ((gives_name_none (hno.congr hus)).2 ⟨rfl, rfl⟩).outcome
  · obtain ⟨t, ts, rfl, ht⟩ := (at_or_notAt _ ts).resolve_right hno
    have hbind : Prompt Name (fun ts => andThen (outcome (readIdentifier ts)) fun name rest => .ok (some name, rest))
        (t :: ts) :=
      (readIdentifier_prompt (t :: ts)).map fun name ns hname => ⟨some name, .some hname, fun _ => rfl⟩
    refine hbind.congr fun us hus => ?_
    obtain ⟨us, rfl⟩ := List.head?_eq_some_iff.1 hus
    rw [outcome_readName, headIs_cons, if_pos ht]

/-- The head of a group with the opening brace. -/
def Opened (_ : Unit) (ts : List Token) : Prop :=
  ∃ hs opening, ts = hs ++ [opening] ∧ GroupHead hs ∧ opening.Mark '\x7b'

theorem readGroupHead_prompt (ts : List Token) : Prompt Opened (fun ts => outcome (readGroupHead ts)) ts := by
  have hmark := readMark_prompt (c := '\x7b') (by decide)
  by_cases hbare : NotAt (Token.Keyword "subgraph") ts
  · have hopened : Prompt Opened (fun ts => outcome (readMark '\x7b' ts)) ts := by
      refine (hmark ts).imp ?_
      rintro _ _ ⟨t, rfl, ht⟩
      exact ⟨[], t, rfl, .bare, ht⟩
    refine hopened.congr fun us hus => ?_
    cases us with
    | nil => rfl
    | cons t us => rw [readGroupHead, if_neg (mt Token.isKeyword_iff.1 (notAt_cons.1 (hbare.congr hus)))]
  · obtain ⟨t, ts, rfl, ht⟩ := (at_or_notAt _ ts).resolve_right hbare
    have hbind : Prompt (fun u qs => Opened u (t :: qs)) (fun us => andThen (outcome (readName us)) fun _ rest =>
        andThen (outcome (readMark '\x7b' rest)) fun _ rest => .ok ((), rest)) ts := by
      refine (readName_prompt ts).seq (fun _ _ rest _ _ => hmark rest)
        (viable_mark (c := '\x7b') (by decide) fun _ ht => viable_of (v := ()) ⟨_, rfl, ht⟩) ?_
      rintro name ns _ _ hname ⟨opening, rfl, hopen⟩
      exact ⟨t :: ns, opening, rfl, .named ht hname, hopen⟩
    refine hbind.cons fun us _ => ?_
    rw [readGroupHead, if_pos (Token.isKeyword_iff.2 ht)]
    exact outcome_bind fun name => outcome_bind fun mark => rfl

/-! ## Completions -/

theorem vertex_of_identifier {name : String} {ns : List Token} (h : Identifier name ns) : Grammar.Vertex name ns := by
  rw [← List.append_nil ns]
  exact .mk h .nil

theorem viable_vertex : Viable Grammar.Vertex [] :=
  viable_identifier.trans fun _ _ hname => viable_of (vertex_of_identifier hname)

theorem viable_statement : Viable Grammar.Statement [] := by
  obtain ⟨name, vs, hwritten, hname⟩ := viable_vertex
  refine ⟨.vertex name, vs, hwritten, ?_⟩
  rw [← List.append_nil vs, List.nil_append]
  exact .vertex hname .nil

/-! ## Statements -/

theorem not_notAt_congr {P : Token → Prop} {ts us : List Token} (h : ¬ NotAt P ts) (hhead : us.head? = ts.head?) :
    ¬ NotAt P us := fun hno => h (hno.congr hhead.symm)

/-- Default attributes are not read without a list of them. -/
theorem readDefaults_prompt {t : Token} (h : t.Defaults) (us : List Token) :
    Prompt Grammar.Statement (fun ts => outcome (readStatement ts)) (t :: us) := by
  by_cases hno : NotAt (Token.Mark '[') us
  · have hopened : Viable (fun s qs => Grammar.Statement s (t :: qs)) [] :=
      viable_mark (c := '[') (by decide) fun _ hopen => viable_mark (c := ']') (by decide) fun _ hclose =>
        viable_of (.defaults h (.cons hopen .nil hclose .nil) (List.cons_ne_nil _ _))
    refine (problem_prompt (c := .expectedAttributes) hopened us).cons fun us hus => ?_
    rw [outcome_readStatement_cons, if_pos (Token.isDefaults_iff.2 h), readDefaults,
      if_neg (headIs_of_notAt (hno.congr hus) fun _ => Token.isMark_iff.1)]
  · have hmap : Prompt (fun s qs => Grammar.Statement s (t :: qs))
        (fun us => andThen (outcome (readAttributeLists us)) fun _ rest => .ok (.defaults, rest)) us :=
      (readAttributeLists_prompt us).map fun as qs has => ⟨.defaults, .defaults h has.1 (has.2 hno), fun _ => rfl⟩
    refine hmap.cons fun us hus => ?_
    rw [outcome_readStatement_cons, if_pos (Token.isDefaults_iff.2 h), readDefaults,
      if_pos (headIs_of_not_notAt (not_notAt_congr hno hus) fun _ => Token.isMark_iff.2)]

theorem readAssignment_prompt {t eq : Token} {key : String} (hkey : Identifier key [t]) (heq : eq.Mark '=')
    (vs : List Token) : Prompt Grammar.Statement (fun ts => outcome (readStatement ts)) (t :: eq :: vs) := by
  have hid : t.isIdentifier = true := Token.isIdentifier_iff.2 ⟨key, hkey⟩
  have hvalue : Prompt (fun s qs => Grammar.Statement s (t :: eq :: qs))
      (fun us => andThen (outcome (readIdentifier us)) fun _ rest => .ok (.assignment, rest)) vs :=
    (readIdentifier_prompt vs).map fun value qs hv => ⟨.assignment, .assignment hkey heq hv, fun _ => rfl⟩
  have hmark : Prompt (fun s qs => Grammar.Statement s (t :: qs)) (fun us => outcome (readStatement (t :: us)))
      (eq :: vs) := by
    refine hvalue.cons fun us _ => ?_
    rw [outcome_readStatement_cons, if_neg fun hd => Token.not_defaults_of_isIdentifier hid (Token.isDefaults_iff.1 hd),
      if_neg fun ho => Token.not_opensGroup_of_isIdentifier hid (Token.opensGroup_iff.1 ho), if_pos hid, headIs_cons,
      if_pos (Token.isMark_iff.2 heq)]
    rfl
  exact hmark.cons fun _ _ => rfl

/-- The token behind the first one was looked at, so a vertex is read on from there. -/
theorem readVertex_tail_prompt {t : Token} {key : String} (hkey : Identifier key [t]) (us : List Token) :
    Prompt (fun name qs => Grammar.Vertex name (t :: qs)) (fun us => outcome (readVertex (t :: us))) us := by
  have hname := (readVertex_complete (vertex_of_identifier hkey) notAt_nil).outcome
  refine (readVertex_prompt (t :: us)).tail hname fun name h => ?_
  obtain ⟨_, _, he, -⟩ := h.cons
  cases he

-- the measure is that of the readers: the tokens left, then the order in which the readers call each other
mutual

theorem readGroup_prompt (ts : List Token) : Prompt Block (fun ts => outcome (readGroup ts)) ts := by
  have hbind : Prompt Block (fun ts => andThen (outcome (readGroupHead ts)) fun _ rest =>
      andThen (outcome (readStatements rest)) fun body rest => andThen (outcome (readMark '\x7d' rest)) fun _ rest =>
        .ok (body, rest)) ts := by
    have hblock : ∀ {hs opening body bs closing}, GroupHead hs → opening.Mark '\x7b' → Statements body bs →
        closing.Mark '\x7d' → Block body (hs ++ [opening] ++ (bs ++ [closing])) := by
      intro hs opening body bs closing hhead hopen hbody hclose
      have hassoc : hs ++ [opening] ++ (bs ++ [closing]) = hs ++ opening :: bs ++ [closing] := by simp
      rw [hassoc]
      exact .mk hhead hopen hbody hclose
    refine (readGroupHead_prompt ts).bind ?_ ?_
    · rintro _ _ ⟨hs, opening, rfl, hhead, hopen⟩
      exact viable_mark (c := '\x7d') (by decide) fun t ht => viable_of (hblock hhead hopen .nil ht)
    · rintro _ _ rest hts ⟨hs, opening, rfl, hhead, hopen⟩
      have : rest.length < ts.length := by simp only [hts, List.length_append, List.length_cons]; omega
      refine (readStatements_prompt rest).seq (fun _ _ rest _ _ => readMark_prompt (c := '\x7d') (by decide) rest)
        (viable_mark (c := '\x7d') (by decide) fun t ht => viable_of (v := ()) ⟨t, rfl, ht⟩) ?_
      rintro body bs _ _ hbody ⟨closing, rfl, hclose⟩
      exact hblock hhead hopen hbody hclose
  exact hbind.congr fun us _ => outcome_readGroup us
termination_by (ts.length, 0)

theorem readEndpoint_prompt (ts : List Token) :
    Prompt Grammar.Endpoint (fun ts => outcome (readEndpoint ts)) ts := by
  by_cases hno : NotAt Token.OpensGroup ts
  · have hmap : Prompt Grammar.Endpoint
        (fun ts => andThen (outcome (readVertex ts)) fun name rest => .ok (.vertex name, rest)) ts :=
      (readVertex_prompt ts).map fun name vs hname => ⟨.vertex name, .vertex hname, fun _ => rfl⟩
    refine hmap.congr fun us hus => ?_
    rw [outcome_readEndpoint, if_neg (headIs_of_notAt (hno.congr hus) fun _ => Token.opensGroup_iff.1)]
  · have hmap : Prompt Grammar.Endpoint
        (fun ts => andThen (outcome (readGroup ts)) fun body rest => .ok (.group body, rest)) ts :=
      (readGroup_prompt ts).map fun body bs hbody => ⟨.group body, .group hbody, fun _ => rfl⟩
    refine hmap.congr fun us hus => ?_
    rw [outcome_readEndpoint, if_pos (headIs_of_not_notAt (not_notAt_congr hno hus) fun _ => Token.opensGroup_iff.2)]
termination_by (ts.length, 1)

/-- An arrow is not left behind. -/
theorem readChain_prompt (ts : List Token) :
    Prompt (fun es qs => Chain es qs ∧ (¬ NotAt Token.Arrow ts → es ≠ [])) (fun ts => outcome (readChain ts)) ts := by
  match ts with
  | [] => exact .stop_nil ⟨.nil, fun hat => absurd notAt_nil hat⟩ (by rw [readChain]; rfl)
  | t :: us =>
    by_cases ht : t.Arrow
    · have hbind : Prompt (fun es qs => Chain es (t :: qs) ∧ (¬ NotAt Token.Arrow (t :: us) → es ≠ []))
          (fun us => andThen (outcome (readEndpoint us)) fun e rest =>
            andThen (outcome (readChain rest)) fun more rest => .ok (e :: more, rest)) us := by
        refine (readEndpoint_prompt us).seq (P := Chain) (fun e pre rest hts _ => ?_) (viable_of .nil)
          fun e pre more qs he hmore => ⟨.cons ht he hmore, fun _ => List.cons_ne_nil _ _⟩
        have : rest.length < us.length + 1 := by rw [hts, List.length_append]; omega
        exact (readChain_prompt rest).imp fun _ _ h => h.1
      refine hbind.cons fun us _ => ?_
      rw [outcome_readChain, headIs_cons, if_pos (Token.isArrow_iff.2 ht)]
      rfl
    · refine .stop_cons ⟨.nil, fun hat => absurd (notAt_cons.2 ht) hat⟩ fun us => ?_
      rw [readChain, if_neg (mt Token.isArrow_iff.1 ht)]
      rfl
termination_by (ts.length, 2)

/-- What follows the first end completes a statement that begins with it. -/
theorem readAfter_prompt {first : Endpoint} {fs : List Token} (hfirst : Grammar.Endpoint first fs) (ts : List Token) :
    Prompt (fun s qs => Grammar.Statement s (fs ++ qs)) (fun ts => outcome (readAfter first ts)) ts := by
  by_cases hno : NotAt Token.Arrow ts
  · cases hfirst with
    | @vertex name fs hname =>
      have hmap : Prompt (fun s qs => Grammar.Statement s (fs ++ qs))
          (fun ts => andThen (outcome (readAttributeLists ts)) fun _ rest => .ok (.vertex name, rest)) ts :=
        (readAttributeLists_prompt ts).map fun as qs has => ⟨.vertex name, .vertex hname has.1, fun _ => rfl⟩
      refine hmap.congr fun us hus => ?_
      rw [outcome_readAfter_vertex, if_neg (headIs_of_notAt (hno.congr hus) fun _ => Token.isArrow_iff.1)]
    | @group body fs hbody =>
      refine .takes (v := .group body) (List.nil_append _).symm (by rw [List.append_nil]; exact .group hbody)
        fun us hus => ?_
      exact ((gives_after_group (hno.congr hus)).2 ⟨rfl, rfl⟩).outcome
  · have hbind : Prompt (fun s qs => Grammar.Statement s (fs ++ qs)) (fun ts =>
        andThen (outcome (readChain ts)) fun more rest => andThen (outcome (readAttributeLists rest)) fun as rest =>
          .ok (.edges first more as, rest)) ts := by
      refine (readChain_prompt ts).seq (P := AttributeLists)
        (fun _ _ rest _ _ => (readAttributeLists_prompt rest).imp fun _ _ h => h.1) (viable_of .nil)
        fun more ms as qs hmore has => ?_
      rw [← List.append_assoc]
      exact .edges hfirst hmore.1 (hmore.2 hno) has
    refine hbind.congr fun us hus => ?_
    exact outcome_readAfter_edges first (headIs_of_not_notAt (not_notAt_congr hno hus) fun _ => Token.isArrow_iff.2)
termination_by (ts.length, 3)

theorem readStatement_prompt (ts : List Token) :
    Prompt Grammar.Statement (fun ts => outcome (readStatement ts)) ts := by
  match ts with
  | [] => exact .refuse_nil viable_statement outcome_readStatement_nil
  | t :: us =>
    by_cases hdefaults : t.Defaults
    · exact readDefaults_prompt hdefaults us
    by_cases hgroup : t.OpensGroup
    · have hbind : Prompt Grammar.Statement (fun ts => andThen (outcome (readGroup ts)) fun body rest =>
          outcome (readAfter (.group body) rest)) (t :: us) := by
        refine (readGroup_prompt (t :: us)).bind (fun body bs hbody => viable_of (.group hbody))
          fun body bs rest hts hbody => ?_
        have : rest.length < us.length + 1 := by
          obtain ⟨u, bs, rfl, -⟩ := hbody.cons
          have hlength := congrArg List.length hts
          simp only [List.length_append, List.length_cons] at hlength
          omega
        exact readAfter_prompt (.group hbody) rest
      refine hbind.congr fun us hus => ?_
      obtain ⟨us, rfl⟩ := List.head?_eq_some_iff.1 hus
      rw [outcome_readStatement_cons, if_neg fun hd => hdefaults (Token.isDefaults_iff.1 hd),
        if_pos (Token.opensGroup_iff.2 hgroup)]
    by_cases hid : t.isIdentifier = true
    · obtain ⟨key, hkey⟩ := Token.isIdentifier_iff.1 hid
      by_cases hno : NotAt (Token.Mark '=') us
      · have htail := readVertex_tail_prompt hkey us
        have hbind : Prompt (fun s qs => Grammar.Statement s (t :: qs)) (fun us =>
            andThen (outcome (readVertex (t :: us))) fun name rest => outcome (readAfter (.vertex name) rest)) us := by
          refine htail.bind (fun name pre hname => ?_) fun name pre rest hts hname => ?_
          · rw [← List.append_nil pre]
            exact viable_of (v := .vertex name) (.vertex hname .nil)
          · have : rest.length < us.length + 1 := by rw [hts, List.length_append]; omega
            exact readAfter_prompt (.vertex hname) rest
        refine hbind.cons fun us hus => ?_
        rw [outcome_readStatement_cons, if_neg fun hd => hdefaults (Token.isDefaults_iff.1 hd),
          if_neg fun ho => hgroup (Token.opensGroup_iff.1 ho), if_pos hid,
          if_neg (headIs_of_notAt (hno.congr hus) fun _ => Token.isMark_iff.1)]
      · obtain ⟨eq, vs, rfl, heq⟩ := (at_or_notAt _ us).resolve_right hno
        exact readAssignment_prompt hkey heq vs
    · refine .refuse_cons (c := .strayToken t.value) viable_statement fun us => ?_
      rw [outcome_readStatement_cons, if_neg fun hd => hdefaults (Token.isDefaults_iff.1 hd),
        if_neg fun ho => hgroup (Token.opensGroup_iff.1 ho), if_neg hid]
termination_by (ts.length, 4)

theorem readStatements_prompt (ts : List Token) : Prompt Statements (fun ts => outcome (readStatements ts)) ts := by
  by_cases hstop : ts = [] ∨ ¬ NotAt (Token.Mark '\x7d') ts
  · refine .takes (v := []) (List.nil_append _).symm Statements.nil fun us hus => ?_
    have hstop' : us = [] ∨ ¬ NotAt (Token.Mark '\x7d') us := by
      refine hstop.imp (fun he => ?_) (not_notAt_congr · hus)
      rwa [he, List.head?_nil, List.head?_eq_none_iff] at hus
    exact ((gives_statements_stop hstop').2 ⟨rfl, rfl⟩).outcome
  · obtain ⟨hne, hmark⟩ := not_or.1 hstop
    have hbind : Prompt Statements (fun ts =>
        andThen (andThen (outcome (readStatement ts)) fun s rest => .ok (s, skipSeparators rest)) fun s rest =>
          andThen (outcome (readStatements rest)) fun more rest => .ok (s :: more, rest)) ts := by
      refine (readStatement_prompt ts).trailed.seq (P := Statements) (fun s pre rest hts hs => ?_) (viable_of .nil) ?_
      · have : rest.length < ts.length := by
          obtain ⟨ss, seps, rfl, hs, -⟩ := hs
          obtain ⟨t, us, rfl, -⟩ := hs.cons
          simp only [hts, List.length_append, List.length_cons]; omega
        exact readStatements_prompt rest
      · rintro s _ more qs ⟨ss, seps, rfl, hs, hseps⟩ hmore
        exact .cons hs hseps hmore
    refine hbind.congr fun us hus => ?_
    have hne' : us ≠ [] := by
      rintro rfl
      exact hne (List.head?_eq_none_iff.1 hus.symm)
    have hno : NotAt (Token.Mark '\x7d') us := (Classical.not_not.1 hmark).congr hus
    rw [outcome_readStatements, if_neg (by simp [headIs_of_notAt hno fun _ => Token.isMark_iff.1, hne']), andThen_skip]
termination_by (ts.length, 5)

end

/-! ## Documents -/

theorem readWord_prompt (ts : List Token) : Prompt (fun _ qs => ∃ t, qs = [t] ∧ t.OpensDocument) readWord ts := by
  have hviable : Viable (fun (_ : Unit) qs => ∃ t, qs = [t] ∧ t.OpensDocument) [] := by
    have hspells : Spells (.word "graph") "graph".toList :=
      .word (c := 'g') (by decide) (List.all_eq_true.1 (by decide))
    exact ⟨(), [⟨.word "graph", .start⟩], List.forall_mem_singleton.2 ⟨_, hspells⟩, _, rfl,
      .inl ⟨"graph", rfl, by decide⟩⟩
  have hiff : ∀ t : Token, (t.isKeyword "graph" || t.isKeyword "digraph") = true ↔ t.OpensDocument := by
    intro t
    rw [Bool.or_eq_true, Token.isKeyword_iff, Token.isKeyword_iff]; rfl
  by_cases hno : NotAt Token.OpensDocument ts
  · refine (problem_prompt (c := .expectedGraph) hviable ts).congr fun us hus => ?_
    rw [readWord, if_neg (headIs_of_notAt (hno.congr hus) fun t => (hiff t).1)]
  · obtain ⟨t, us, rfl, ht⟩ := (at_or_notAt _ ts).resolve_right hno
    refine .takes (v := ()) (List.singleton_append).symm ⟨t, rfl, ht⟩ fun us _ => ?_
    exact if_pos ((hiff t).2 ht)

theorem readGraphWord_prompt (ts : List Token) :
    Prompt (fun _ qs => Opening qs) (fun ts => (readGraphWord ts).map fun rest => ((), rest)) ts := by
  by_cases hno : NotAt (Token.Keyword "strict") ts
  · have hword : Prompt (fun (_ : Unit) qs => Opening qs) readWord ts := by
      refine (readWord_prompt ts).imp ?_
      rintro _ _ ⟨t, rfl, ht⟩
      exact .plain ht
    refine hword.congr fun us hus => ?_
    rw [readGraphWord_eq, if_neg (headIs_of_notAt (hno.congr hus) fun _ => Token.isKeyword_iff.1)]
  · obtain ⟨t, us, rfl, ht⟩ := (at_or_notAt _ ts).resolve_right hno
    have hword : Prompt (fun (_ : Unit) qs => Opening (t :: qs)) readWord us := by
      refine (readWord_prompt us).imp ?_
      rintro _ _ ⟨u, rfl, hu⟩
      exact .strict ht hu
    refine hword.cons fun us _ => ?_
    rw [readGraphWord_eq, if_pos (show headIs (·.isKeyword "strict") (t :: us) = true by simpa [headIs] using ht)]
    rfl

theorem readEnd_prompt (d : Document) (ts : List Token) : Prompt (fun v qs => v = d ∧ qs = []) (readEnd d) ts := by
  cases ts with
  | nil => exact .stop_nil ⟨rfl, rfl⟩ rfl
  | cons t ts => exact .refuse_cons (viable_of ⟨rfl, rfl⟩) fun _ => rfl

theorem readDocument_prompt (ts : List Token) :
    Prompt Grammar.Document (fun ts => (readDocument ts).map fun d => (d, [])) ts := by
  have hdocument : ∀ {os name ns opening body bs closing}, Opening os → Name name ns → opening.Mark '\x7b' →
      Statements body bs → closing.Mark '\x7d' →
        Grammar.Document ⟨name, body⟩ (os ++ (ns ++ ([opening] ++ (bs ++ [closing])))) := by
    intro os name ns opening body bs closing hopening hname hopen hbody hclose
    have hassoc : os ++ (ns ++ ([opening] ++ (bs ++ [closing]))) = os ++ ns ++ opening :: bs ++ [closing] := by simp
    rw [hassoc]
    exact .mk hopening hname hopen hbody hclose
  -- each part of a document is completed by the parts behind it
  have hbody : ∀ {os name ns opening body bs}, Opening os → Name name ns → opening.Mark '\x7b' → Statements body bs →
      Viable (fun d qs => Grammar.Document d (os ++ (ns ++ ([opening] ++ qs)))) bs := fun hos hns hopen hbs =>
    viable_mark (c := '\x7d') (by decide) fun _ hclose => viable_of (hdocument hos hns hopen hbs hclose)
  have hbrace : ∀ {os name ns opening}, Opening os → Name name ns → opening.Mark '\x7b' →
      Viable (fun d qs => Grammar.Document d (os ++ (ns ++ qs))) [opening] := fun hos hns hopen =>
    (hbody hos hns hopen .nil).of_append (N := fun d qs => Grammar.Document d (_ ++ (_ ++ qs)))
  have hname : ∀ {os name ns}, Opening os → Name name ns →
      Viable (fun d qs => Grammar.Document d (os ++ qs)) ns := fun hos hns =>
    viable_mark (c := '\x7b') (by decide) fun _ hopen =>
      (hbrace hos hns hopen).of_append (N := fun d qs => Grammar.Document d (_ ++ qs))
  have hwords : ∀ {os}, Opening os → Viable Grammar.Document os := fun hos => by
    have := (hname hos .none).of_append
    rwa [List.append_nil] at this
  refine Prompt.congr ?_ fun us _ => readDocument_eq us
  refine (readGraphWord_prompt ts).bind (fun _ os hos => hwords hos) fun _ os rest _ hos => ?_
  refine (readName_prompt rest).bind (fun name ns hns => hname hos hns) fun name ns rest _ hns => ?_
  refine (readMark_prompt (by decide) rest).bind ?_ ?_
  · rintro _ _ ⟨opening, rfl, hopen⟩
    exact hbrace hos hns hopen
  rintro _ _ rest _ ⟨opening, rfl, hopen⟩
  refine (readStatements_prompt rest).bind (fun body bs hbs => hbody hos hns hopen hbs) fun body bs rest _ hbs => ?_
  refine (readMark_prompt (by decide) rest).bind ?_ ?_
  · rintro _ _ ⟨closing, rfl, hclose⟩
    exact viable_of (hdocument hos hns hopen hbs hclose)
  rintro _ _ rest _ ⟨closing, rfl, hclose⟩
  refine (readEnd_prompt ⟨name, body⟩ rest).imp ?_
  rintro _ _ ⟨rfl, rfl⟩
  exact hdocument hos hns hopen hbs hclose

end StateTraces.Dot
