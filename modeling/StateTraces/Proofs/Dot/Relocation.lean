import Mathlib.Data.List.Forall2
import StateTraces.Dot.Reader
import StateTraces.Proofs.Dot.Spacing

/-
Reading does not look at places. Two lists of tokens with the same lexemes are read alike: the same value
is read and tokens with the same lexemes are left, or both are refused with the same complaint. There is
one lemma for each reader, put together like the reader itself. So what is put in before the tokens of a
text changes neither the document that it writes nor what is wrong with it.
-/

namespace StateTraces.Dot

/-! ## Tokens elsewhere -/

/-- The same lexemes, wherever they stand. -/
abbrev SameLexemes : List Token → List Token → Prop := List.Forall₂ fun t t' => t.lexeme = t'.lexeme

theorem sameLexemes_iff {ts ts' : List Token} :
    SameLexemes ts ts' ↔ ts.map Token.lexeme = ts'.map Token.lexeme := by
  rw [← List.forall₂_eq_eq_eq, List.forall₂_map_left_iff, List.forall₂_map_right_iff]

/-- Both are read, and what is read is related; or both are refused with the same complaint. -/
inductive SameOutcome {α β : Type} (R : α → β → Prop) : Except Problem α → Except Problem β → Prop where
  | ok {a : α} {b : β} (h : R a b) : SameOutcome R (.ok a) (.ok b)
  | error {p q : Problem} (h : p.complaint = q.complaint) : SameOutcome R (.error p) (.error q)

/-- The same value is read, and the same lexemes are left. -/
structure SameRead {α : Type} {m n : Nat} (a : Read α m) (b : Read α n) : Prop where
  value : a.value = b.value
  rest : SameLexemes a.rest b.rest

/-- Two readers read alike. -/
abbrev SameReads {α : Type} {m n : Nat} : Reads α m → Reads α n → Prop := SameOutcome SameRead

section Tokens

variable {t t' : Token} {ts ts' : List Token} {p : Token → Bool}

theorem isMark_congr (c : Char) (h : t.lexeme = t'.lexeme) : t.isMark c = t'.isMark c := by
  rw [Token.isMark, Token.isMark, h]

theorem isKeyword_congr (k : String) (h : t.lexeme = t'.lexeme) : t.isKeyword k = t'.isKeyword k := by
  rw [Token.isKeyword, Token.isKeyword, Token.lowerWord?, Token.lowerWord?, h]

theorem isArrow_congr (h : t.lexeme = t'.lexeme) : t.isArrow = t'.isArrow := by
  rw [Token.isArrow, Token.isArrow, h]

theorem isIdentifier_congr (h : t.lexeme = t'.lexeme) : t.isIdentifier = t'.isIdentifier := by
  rw [Token.isIdentifier, Token.isIdentifier, h]

theorem isSeparator_congr (h : t.lexeme = t'.lexeme) : t.isSeparator = t'.isSeparator := by
  rw [Token.isSeparator, Token.isSeparator, isMark_congr _ h, isMark_congr _ h]

theorem opensGroup_congr (h : t.lexeme = t'.lexeme) : t.opensGroup = t'.opensGroup := by
  rw [Token.opensGroup, Token.opensGroup, isKeyword_congr _ h, isMark_congr _ h]

theorem SameLexemes.headIs (h : SameLexemes ts ts') (hp : ∀ {t t' : Token}, t.lexeme = t'.lexeme → p t = p t') :
    Dot.headIs p ts = Dot.headIs p ts' := by
  cases h with
  | nil => rfl
  | cons ht => exact hp ht

theorem value_congr (h : t.lexeme = t'.lexeme) : t.value = t'.value := congrArg Lexeme.value h

theorem SameLexemes.tail (h : SameLexemes ts ts') : SameLexemes (ts.drop 1) (ts'.drop 1) := by
  cases h with
  | nil => exact .nil
  | cons _ hts => exact hts

theorem SameLexemes.isEmpty (h : SameLexemes ts ts') : ts.isEmpty = ts'.isEmpty := by
  cases h with
  | nil => rfl
  | cons => rfl

theorem SameLexemes.skipSeparators (h : SameLexemes ts ts') :
    SameLexemes (Dot.skipSeparators ts) (Dot.skipSeparators ts') := by
  unfold Dot.skipSeparators
  induction h with
  | nil => exact .nil
  | @cons t t' ts ts' ht hts ih =>
    rw [List.dropWhile_cons, List.dropWhile_cons, isSeparator_congr ht]
    split
    · exact ih
    · exact .cons ht hts

end Tokens

section Outcomes

variable {α β γ δ : Type} {R : α → β → Prop} {S : γ → δ → Prop} {r : Except Problem α} {r' : Except Problem β}

theorem SameOutcome.bind {f : α → Except Problem γ} {f' : β → Except Problem δ} (h : SameOutcome R r r')
    (hf : ∀ a b, R a b → SameOutcome S (f a) (f' b)) : SameOutcome S (r >>= f) (r' >>= f') := by
  cases h with
  | ok h => exact hf _ _ h
  | error h => exact .error h

/-- Two decisions by conditions that agree. -/
theorem SameOutcome.ite {b b' : Bool} {s : Except Problem α} {s' : Except Problem β} (hb : b = b')
    (hyes : SameOutcome R r r') (hno : SameOutcome R s s') :
    SameOutcome R (if b then r else s) (if b' then r' else s') := by
  subst hb
  split
  · exact hyes
  · exact hno

theorem sameOutcome_problem {c : Complaint} {ts ts' : List Token} :
    SameOutcome R (problem c ts) (problem c ts') := .error rfl

end Outcomes

/-! ## Names, vertices and attributes -/

theorem readMark_same (c : Char) {ts ts' : List Token} (h : SameLexemes ts ts') :
    SameReads (readMark c ts) (readMark c ts') := by
  cases h with
  | nil => exact sameOutcome_problem
  | cons ht hts =>
    rw [readMark, readMark, value_congr ht]
    exact .ite (isMark_congr c ht) (.ok ⟨rfl, hts⟩) sameOutcome_problem

theorem readJoined_same : ∀ {ts ts' : List Token} (before : String), SameLexemes ts ts' →
    SameReads (readJoined before ts) (readJoined before ts')
  | _, _, _, .nil => .ok ⟨rfl, .nil⟩
  | _, _, _, .cons ht .nil => by
    rw [readJoined, readJoined]
    exact .ite (isMark_congr '+' ht) sameOutcome_problem (.ok ⟨rfl, .cons ht .nil⟩)
  | t :: next :: ts, t' :: next' :: ts', before, .cons ht (.cons hnext hts) => by
    rw [readJoined, readJoined]
    refine .ite (isMark_congr '+' ht) ?_ (.ok ⟨rfl, .cons ht (.cons hnext hts)⟩)
    rw [hnext]
    cases next'.lexeme with
    | quoted s => exact (readJoined_same (before ++ s) hts).bind fun a b h => .ok ⟨h.value, h.rest⟩
    | word | numeral | angle | arrow | mark => exact sameOutcome_problem

theorem readIdentifier_same {ts ts' : List Token} (h : SameLexemes ts ts') :
    SameReads (readIdentifier ts) (readIdentifier ts') := by
  cases h with
  | nil => exact sameOutcome_problem
  | @cons t t' _ _ ht hts =>
    rw [readIdentifier, readIdentifier, value_congr ht]
    refine .ite (isIdentifier_congr ht) ?_ sameOutcome_problem
    rw [ht]
    cases t'.lexeme with
    | quoted s => exact (readJoined_same s hts).bind fun a b h => .ok ⟨h.value, h.rest⟩
    | word | numeral | angle | arrow | mark => exact .ok ⟨rfl, hts⟩

theorem readAnchors_same {ts ts' : List Token} (h : SameLexemes ts ts') :
    SameReads (readAnchors ts) (readAnchors ts') := by
  cases h with
  | nil => rw [readAnchors]; exact .ok ⟨rfl, .nil⟩
  | cons ht hts =>
    rw [readAnchors, readAnchors]
    refine .ite (isMark_congr ':' ht) ?_ (.ok ⟨rfl, .cons ht hts⟩)
    refine (readIdentifier_same hts).bind fun place place' hplace => ?_
    have := place.shorter
    exact (readAnchors_same hplace.rest).bind fun a b h => .ok ⟨rfl, h.rest⟩
termination_by ts.length

theorem readVertex_same {ts ts' : List Token} (h : SameLexemes ts ts') : SameReads (readVertex ts) (readVertex ts') :=
  (readIdentifier_same h).bind fun _ _ hname =>
    (readAnchors_same hname.rest).bind fun _ _ h => .ok ⟨hname.value, h.rest⟩

theorem readAttribute_same {ts ts' : List Token} (h : SameLexemes ts ts') :
    SameReads (readAttribute ts) (readAttribute ts') := by
  refine (readIdentifier_same h).bind fun ⟨key, rest, hshorter⟩ ⟨key', rest', hshorter'⟩ ⟨hkey, hrest⟩ => ?_
  obtain rfl : key = key' := hkey
  have hrest : SameLexemes rest rest' := hrest
  cases hrest with
  | nil => exact .ok ⟨rfl, .nil⟩
  | cons ht hts =>
    refine .ite (isMark_congr '=' ht) ?_ (.ok ⟨rfl, .cons ht hts⟩)
    exact (readIdentifier_same hts).bind fun value value' hvalue => .ok ⟨congrArg (key, ·) hvalue.value, hvalue.rest⟩

theorem readAttributes_same {ts ts' : List Token} (h : SameLexemes ts ts') :
    SameReads (readAttributes ts) (readAttributes ts') := by
  rw [readAttributes, readAttributes]
  refine .ite (h.headIs (isMark_congr ']')) (.ok ⟨rfl, h.tail⟩) ?_
  refine (readAttribute_same h).bind fun a a' ha => ?_
  have := a.shorter
  have := skipSeparators_length a.rest
  exact (readAttributes_same ha.rest.skipSeparators).bind fun r r' hr =>
    .ok ⟨congrArg₂ List.cons ha.value hr.value, hr.rest⟩
termination_by ts.length

theorem readAttributeLists_same {ts ts' : List Token} (h : SameLexemes ts ts') :
    SameReads (readAttributeLists ts) (readAttributeLists ts') := by
  cases h with
  | nil => rw [readAttributeLists]; exact .ok ⟨rfl, .nil⟩
  | cons ht hts =>
    rw [readAttributeLists, readAttributeLists]
    refine .ite (isMark_congr '[' ht) ?_ (.ok ⟨rfl, .cons ht hts⟩)
    refine (readAttributes_same hts).bind fun one one' hone => ?_
    have := one.shorter
    exact (readAttributeLists_same hone.rest).bind fun more more' hmore =>
      .ok ⟨congrArg₂ (· ++ ·) hone.value hmore.value, hmore.rest⟩
termination_by ts.length

/-! ## Statements -/

theorem readName_same {ts ts' : List Token} (h : SameLexemes ts ts') :
    SameReads (readName ts) (readName ts') := by
  unfold readName
  refine .ite (h.headIs isIdentifier_congr) ?_ (.ok ⟨rfl, h⟩)
  exact (readIdentifier_same h).bind fun r r' hr => .ok ⟨congrArg some hr.value, hr.rest⟩

theorem readGroupHead_same {ts ts' : List Token} (h : SameLexemes ts ts') :
    SameReads (readGroupHead ts) (readGroupHead ts') := by
  cases h with
  | nil => exact readMark_same '\x7b' .nil
  | cons ht hts =>
    rw [readGroupHead, readGroupHead]
    refine .ite (isKeyword_congr "subgraph" ht) ?_ (readMark_same '\x7b' (.cons ht hts))
    refine (readName_same hts).bind fun name name' hname => ?_
    exact (readMark_same '\x7b' hname.rest).bind fun r r' hr => .ok ⟨rfl, hr.rest⟩

mutual

theorem readGroup_same {ts ts' : List Token} (h : SameLexemes ts ts') :
    SameReads (readGroup ts) (readGroup ts') := by
  rw [readGroup, readGroup]
  refine (readGroupHead_same h).bind fun head head' hhead => ?_
  have := head.shorter
  refine (readStatements_same hhead.rest).bind fun body body' hbody => ?_
  exact (readMark_same '\x7d' hbody.rest).bind fun close close' hclose => .ok ⟨hbody.value, hclose.rest⟩
termination_by (ts.length, 0)

theorem readEndpoint_same {ts ts' : List Token} (h : SameLexemes ts ts') :
    SameReads (readEndpoint ts) (readEndpoint ts') := by
  rw [readEndpoint, readEndpoint]
  refine .ite (h.headIs opensGroup_congr) ?_ ?_
  · exact (readGroup_same h).bind fun r r' hr => .ok ⟨congrArg Endpoint.group hr.value, hr.rest⟩
  · exact (readVertex_same h).bind fun r r' hr => .ok ⟨congrArg Endpoint.vertex hr.value, hr.rest⟩
termination_by (ts.length, 1)

theorem readChain_same {ts ts' : List Token} (h : SameLexemes ts ts') :
    SameReads (readChain ts) (readChain ts') := by
  match ts, ts', h with
  | [], [], .nil => rw [readChain]; exact .ok ⟨rfl, .nil⟩
  | t :: ts, t' :: ts', .cons ht hts =>
    rw [readChain, readChain]
    refine .ite (isArrow_congr ht) ?_ (.ok ⟨rfl, .cons ht hts⟩)
    refine (readEndpoint_same hts).bind fun one one' hone => ?_
    have := one.shorter
    exact (readChain_same hone.rest).bind fun more more' hmore =>
      .ok ⟨congrArg₂ List.cons hone.value hmore.value, hmore.rest⟩
termination_by (ts.length, 2)

theorem readAfter_same (first : Endpoint) {ts ts' : List Token} (h : SameLexemes ts ts') :
    SameReads (readAfter first ts) (readAfter first ts') := by
  rw [readAfter.eq_def, readAfter.eq_def]
  refine .ite (h.headIs isArrow_congr) ?_ ?_
  · refine (readChain_same h).bind fun chain chain' hchain => ?_
    refine (readAttributeLists_same hchain.rest).bind fun as as' has => .ok ⟨?_, has.rest⟩
    rw [hchain.value, has.value]
  · cases first with
    | group body => exact .ok ⟨rfl, h⟩
    | vertex name => exact (readAttributeLists_same h).bind fun as as' has => .ok ⟨rfl, has.rest⟩
termination_by (ts.length, 3)

theorem readStatement_same {ts ts' : List Token} (h : SameLexemes ts ts') :
    SameReads (readStatement ts) (readStatement ts') := by
  match ts, ts', h with
  | [], [], .nil => rw [readStatement]; exact sameOutcome_problem
  | t :: ts, t' :: ts', .cons ht hts =>
    rw [readStatement, readStatement, value_congr ht]
    refine .ite (by rw [isKeyword_congr _ ht, isKeyword_congr _ ht, isKeyword_congr _ ht]) ?_ ?_
    · refine .ite (SameLexemes.headIs hts (isMark_congr '[')) ?_ sameOutcome_problem
      exact (readAttributeLists_same hts).bind fun r r' hr => .ok ⟨rfl, hr.rest⟩
    refine .ite (opensGroup_congr ht) ?_ ?_
    · refine (readGroup_same (.cons ht hts)).bind fun g g' hg => ?_
      have := g.shorter
      rw [hg.value]
      exact (readAfter_same (.group g'.value) hg.rest).bind fun r r' hr => .ok ⟨hr.value, hr.rest⟩
    refine .ite (isIdentifier_congr ht) ?_ sameOutcome_problem
    refine .ite (SameLexemes.headIs hts (isMark_congr '=')) ?_ ?_
    · exact (readIdentifier_same (SameLexemes.tail hts)).bind fun r r' hr => .ok ⟨rfl, hr.rest⟩
    · refine (readVertex_same (.cons ht hts)).bind fun name name' hname => ?_
      have := name.shorter
      rw [hname.value]
      exact (readAfter_same (.vertex name'.value) hname.rest).bind fun r r' hr => .ok ⟨hr.value, hr.rest⟩
termination_by (ts.length, 4)

theorem readStatements_same {ts ts' : List Token} (h : SameLexemes ts ts') :
    SameReads (readStatements ts) (readStatements ts') := by
  rw [readStatements, readStatements]
  refine .ite (by rw [h.isEmpty, h.headIs (isMark_congr '\x7d')]) (.ok ⟨rfl, h⟩) ?_
  refine (readStatement_same h).bind fun one one' hone => ?_
  have := one.shorter
  have := skipSeparators_length one.rest
  exact (readStatements_same hone.rest.skipSeparators).bind fun more more' hmore =>
    .ok ⟨congrArg₂ List.cons hone.value hmore.value, hmore.rest⟩
termination_by (ts.length, 5)

end

/-! ## Documents -/

theorem readGraphWord_same {ts ts' : List Token} (h : SameLexemes ts ts') :
    SameOutcome SameLexemes (readGraphWord ts) (readGraphWord ts') := by
  have hword : ∀ {ts ts' : List Token}, SameLexemes ts ts' → SameOutcome SameLexemes
      (if headIs (fun t => t.isKeyword "graph" || t.isKeyword "digraph") ts then .ok (ts.drop 1)
        else problem .expectedGraph ts)
      (if headIs (fun t => t.isKeyword "graph" || t.isKeyword "digraph") ts' then .ok (ts'.drop 1)
        else problem .expectedGraph ts') := by
    intro ts ts' h
    refine .ite (h.headIs fun ht => ?_) (.ok h.tail) sameOutcome_problem
    rw [isKeyword_congr _ ht, isKeyword_congr _ ht]
  have hstrict : headIs (·.isKeyword "strict") ts = headIs (·.isKeyword "strict") ts' :=
    h.headIs (isKeyword_congr "strict")
  simp only [readGraphWord, hstrict]
  split
  · exact hword h.tail
  · exact hword h

theorem readDocument_same {ts ts' : List Token} (h : SameLexemes ts ts') :
    SameOutcome Eq (readDocument ts) (readDocument ts') := by
  refine (readGraphWord_same h).bind fun us us' hus => ?_
  refine (readName_same hus).bind fun name name' hname => ?_
  refine (readMark_same '\x7b' hname.rest).bind fun head head' hhead => ?_
  refine (readStatements_same hhead.rest).bind fun body body' hbody => ?_
  refine (readMark_same '\x7d' hbody.rest).bind fun close close' hclose => ?_
  refine .ite hclose.rest.isEmpty (.ok ?_) sameOutcome_problem
  rw [hname.value, hbody.value]

/-- Tokens with the same lexemes write the same document, or are refused with the same complaint. -/
theorem ofTokens_same {ts ts' : List Token} (h : SameLexemes ts ts') :
    (∀ d, Document.ofTokens ts = .ok d → Document.ofTokens ts' = .ok d) ∧
      ∀ fault, Document.ofTokens ts = .error fault →
        ∃ position, Document.ofTokens ts' = .error ⟨fault.complaint, position⟩ := by
  have hread := readDocument_same h
  unfold Document.ofTokens
  generalize readDocument ts = r, readDocument ts' = r' at hread
  cases hread with
  | ok hd =>
    subst hd
    exact ⟨fun _ h => h, nofun⟩
  | @error p q hcomplaint =>
    refine ⟨nofun, fun fault hfault => ⟨q.position ts', ?_⟩⟩
    cases hfault
    show Except.error (⟨q.complaint, q.position ts'⟩ : Fault) = .error ⟨p.complaint, q.position ts'⟩
    rw [hcomplaint]

/-- Layout does not matter: blanks, newlines and comments put in right before tokens change no lexeme, no
document, hence no graph, and no complaint. -/
theorem ofText_spread {text : String} {ts : List Token} (h : tokens text = .ok ts)
    {filler : Position → List Char} (hfiller : ∀ p, Filler (filler p))
    (hplaces : ∀ p, filler p ≠ [] → ∃ t ∈ ts, t.position = p) :
    let text' := String.ofList (spread filler .start text.toList)
    (∃ ts', tokens text' = .ok ts' ∧ ts'.map Token.lexeme = ts.map Token.lexeme) ∧
      (∀ d, Document.ofText text = .ok d → Document.ofText text' = .ok d) ∧
      ∀ fault, Document.ofText text = .error fault → ∃ fault', Document.ofText text' = .error fault' ∧
        ∀ source, (fault'.report source).kind.name = "DotSyntaxError" ∧
          (fault'.report source).message = (fault.report source).message := by
  intro text'
  obtain ⟨ts', hts', hlexemes⟩ := tokens_spread h hfiller hplaces
  obtain ⟨hok, herror⟩ := ofTokens_same (sameLexemes_iff.2 hlexemes.symm)
  have hread : Document.ofText text = Document.ofTokens ts := by rw [Document.ofText, h]; rfl
  have hread' : Document.ofText text' = Document.ofTokens ts' := by rw [Document.ofText, hts']; rfl
  rw [hread, hread']
  refine ⟨⟨ts', hts', hlexemes⟩, hok, fun fault hfault => ?_⟩
  obtain ⟨position, hfault'⟩ := herror fault hfault
  exact ⟨_, hfault', fun source => ⟨rfl, rfl⟩⟩

/-- A comment of its own line before a vertex. -/
theorem ofText_spread_comment :
    let filler (p : Position) : List Char :=
      if p = ⟨1, 7⟩ then ['\n', '/', '/', 'b', '\n', ' '] else []
    let ts : List Token :=
      [⟨.word "graph", ⟨1, 1⟩⟩, ⟨.mark '\x7b', ⟨1, 6⟩⟩, ⟨.word "a", ⟨1, 7⟩⟩, ⟨.mark '\x7d', ⟨1, 8⟩⟩]
    tokens "graph\x7ba\x7d" = .ok ts ∧ (∀ p, filler p ≠ [] → ∃ t ∈ ts, t.position = p) ∧
      (∃ ts', tokens "graph\x7b\n//b\n a\x7d" = .ok ts' ∧ ts'.map Token.lexeme = ts.map Token.lexeme) ∧
      ∀ d, Document.ofText "graph\x7ba\x7d" = .ok d → Document.ofText "graph\x7b\n//b\n a\x7d" = .ok d := by
  intro filler ts
  have htokens : tokens "graph\x7ba\x7d" = .ok ts := by decide +kernel
  have hfiller : ∀ p, Filler (filler p) := by
    intro p
    dsimp only [filler]
    split
    · exact .space (.inr rfl) (@Filler.line ['b'] [' '] (by decide) (.space (.inl rfl) .nil))
    · exact .nil
  have hplaces : ∀ p, filler p ≠ [] → ∃ t ∈ ts, t.position = p := by
    intro p hp
    dsimp only [filler] at hp
    split at hp
    · rename_i h
      exact ⟨⟨.word "a", ⟨1, 7⟩⟩, by decide, h.symm⟩
    · exact absurd rfl hp
  have htext : String.ofList (spread filler .start "graph\x7ba\x7d".toList) = "graph\x7b\n//b\n a\x7d" := by decide
  have h := ofText_spread htokens hfiller hplaces
  rw [htext] at h
  exact ⟨htokens, hplaces, h.1, h.2.1⟩

end StateTraces.Dot
