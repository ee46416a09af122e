import StateTraces.Proofs.Dot.Lexicon

/-
One cut against the lexicon: the lengths that are computed from the front of a text are the lengths of
what the lexicon calls a run, a comment, a quoted text, an angle text and a numeral. What the lexicon lets
start somewhere is cut there, and what is cut was let start.
-/

namespace StateTraces.Dot

/-! ## Runs -/

section Runs

variable {p : Char → Bool} {word rest : List Char}

theorem run_append (hword : ∀ c ∈ word, p c = true) (hstop : ∀ c ∈ rest.head?, p c = false) :
    run p (word ++ rest) = word.length := by
  unfold run
  rw [List.takeWhile_append_of_pos hword]
  cases rest with
  | nil => simp
  | cons c rest => simp [hstop c rfl]

theorem exists_run (p : Char → Bool) (cs : List Char) : ∃ word rest, cs = word ++ rest ∧
    (∀ c ∈ word, p c = true) ∧ ∀ c ∈ rest.head?, p c = false := by
  refine ⟨cs.takeWhile p, cs.dropWhile p, List.takeWhile_append_dropWhile.symm, fun c hc => ?_, fun c hc => ?_⟩
  · exact List.mem_takeWhile_imp hc
  · have := List.head?_dropWhile_not p cs
    rw [Option.mem_def.1 hc] at this
    exact this

/-- A line is the run of characters before the next newline. -/
theorem run_line {text after : List Char} (h : '\n' ∉ text) (hend : LineEnds after) :
    run (· != '\n') (text ++ after) = text.length := by
  refine run_append (fun c hc => ?_) (fun c hc => ?_)
  · rw [bne_iff_ne]
    rintro rfl
    exact h hc
  · simpa using hend c hc

theorem exists_line (cs : List Char) : ∃ text after, cs = text ++ after ∧ '\n' ∉ text ∧ LineEnds after := by
  obtain ⟨text, after, rfl, htext, hafter⟩ := exists_run (· != '\n') cs
  refine ⟨text, after, rfl, fun h => ?_, fun c hc => ?_⟩
  · simpa using htext _ h
  · simpa using hafter c hc

end Runs

/-! ## Delimited texts -/

section Delimited

variable {cs body : List Char} {c : Char} {n depth : Nat}

theorem unclosed_nil : Unclosed [] := fun h => absurd h.length_le (by decide)

theorem unclosed_cons : Unclosed (c :: body) ↔ ¬ (c = '*' ∧ body.head? = some '/') ∧ Unclosed body := by
  unfold Unclosed
  rw [List.cons_append, List.infix_cons_iff, not_or, List.cons_prefix_cons]
  have hhead : ['/'] <+: body ++ ['*'] ↔ body.head? = some '/' := by
    cases body with
    | nil => simp
    | cons d body => simp [eq_comm]
  rw [hhead, eq_comm (a := '*')]

theorem commentEnd_eq_some : commentEnd cs = some n ↔
    ∃ body rest, cs = body ++ '*' :: '/' :: rest ∧ n = body.length + 2 ∧ Unclosed body := by
  induction cs generalizing n with
  | nil => simp [commentEnd]
  | cons c cs ih =>
    have hhead : ∀ {body rest : List Char}, cs = body ++ '*' :: '/' :: rest →
        (cs.head? = some '/' ↔ body.head? = some '/') := by
      rintro (_ | ⟨d, body⟩) rest rfl
      · simp
      · rfl
    rw [commentEnd]
    split
    · rename_i hclose
      constructor
      · rintro h
        obtain ⟨rfl, hslash⟩ := hclose
        obtain ⟨rest, rfl⟩ := List.head?_eq_some_iff.1 hslash
        exact ⟨[], rest, rfl, (Option.some.inj h).symm, unclosed_nil⟩
      · rintro ⟨_ | ⟨d, body⟩, rest, hcs, rfl, hbody⟩
        · rfl
        · obtain ⟨rfl, htail⟩ := List.cons.inj hcs
          exact absurd ⟨hclose.1, (hhead htail).1 hclose.2⟩ (unclosed_cons.1 hbody).1
    · rename_i hopen
      rw [Option.map_eq_some_iff]
      constructor
      · rintro ⟨m, hm, rfl⟩
        obtain ⟨body, rest, hcs, rfl, hbody⟩ := ih.1 hm
        refine ⟨c :: body, rest, by rw [hcs]; rfl, rfl, unclosed_cons.2 ⟨fun hclose => ?_, hbody⟩⟩
        exact hopen ⟨hclose.1, (hhead hcs).2 hclose.2⟩
      · rintro ⟨_ | ⟨d, body⟩, rest, hcs, rfl, hbody⟩
        · obtain ⟨rfl, rfl⟩ := List.cons.inj hcs
          exact absurd ⟨rfl, rfl⟩ hopen
        · obtain ⟨rfl, htail⟩ := List.cons.inj hcs
          exact ⟨body.length + 2, ih.2 ⟨body, rest, htail, rfl, (unclosed_cons.1 hbody).2⟩, rfl⟩

theorem quoteEnd_append (h : Quoting body) (rest : List Char) :
    quoteEnd (body ++ '"' :: rest) = some (body.length + 1) := by
  induction h with
  | nil => rfl
  | escaped c _ ih =>
    rw [List.cons_append, List.cons_append, quoteEnd, ih]
    rfl
  | plain hquote hback _ ih =>
    rw [List.cons_append, quoteEnd, ih]
    · rfl
    · exact hquote
    · exact fun _ _ he => absurd he hback

theorem exists_quoting (h : quoteEnd cs = some n) :
    ∃ body rest, cs = body ++ '"' :: rest ∧ n = body.length + 1 ∧ Quoting body := by
  induction cs using quoteEnd.induct generalizing n with
  | case1 => cases h
  | case2 rest => exact ⟨[], rest, rfl, (Option.some.inj h).symm, .nil⟩
  | case3 c cs ih =>
    rw [quoteEnd, Option.map_eq_some_iff] at h
    obtain ⟨m, hm, rfl⟩ := h
    obtain ⟨body, rest, rfl, rfl, hbody⟩ := ih hm
    exact ⟨'\\' :: c :: body, rest, rfl, rfl, .escaped c hbody⟩
  | case4 c cs hquote hescape ih =>
    rw [quoteEnd, Option.map_eq_some_iff] at h
    · obtain ⟨m, hm, rfl⟩ := h
      obtain ⟨body, rest, rfl, rfl, hbody⟩ := ih hm
      have hback : c ≠ '\\' := by
        rintro rfl
        cases body with
        | nil => exact hescape _ _ rfl rfl
        | cons d body => exact hescape _ _ rfl rfl
      exact ⟨c :: body, rest, rfl, rfl, .plain hquote hback hbody⟩
    · exact hquote
    · exact hescape

theorem closing_nil : Closing depth [] ↔ depth = 0 := by
  constructor
  · intro h; simpa using h.total.symm
  · rintro rfl
    exact ⟨rfl, fun p hp => by rw [List.prefix_nil.1 hp]; exact Nat.le_refl 0⟩

/-- What a first character leaves to be closed behind it. -/
theorem closing_cons : Closing depth (c :: body) ↔
    if c = '<' then Closing (depth + 1) body
    else if c = '>' then 0 < depth ∧ Closing (depth - 1) body
    else Closing depth body := by
  have hcons : Closing depth (c :: body) ↔ (c :: body).count '>' = (c :: body).count '<' + depth ∧
      ∀ p, p <+: body → (c :: p).count '>' ≤ (c :: p).count '<' + depth := by
    constructor
    · intro h
      exact ⟨h.total, fun p hp => h.inside (c :: p) (List.cons_prefix_cons.2 ⟨rfl, hp⟩)⟩
    · rintro ⟨htotal, hinside⟩
      refine ⟨htotal, fun p hp => ?_⟩
      rcases List.prefix_cons_iff.1 hp with rfl | ⟨q, rfl, hq⟩
      · exact Nat.zero_le _
      · exact hinside q hq
  rw [hcons]
  by_cases hopen : c = '<'
  · subst hopen
    simp only [List.count_cons, if_pos, beq_self_eq_true]
    constructor
    · rintro ⟨htotal, hinside⟩
      exact ⟨by simp at htotal; omega, fun p hp => by have := hinside p hp; simp at this; omega⟩
    · rintro ⟨htotal, hinside⟩
      exact ⟨by simp; omega, fun p hp => by have := hinside p hp; simp; omega⟩
  by_cases hclose : c = '>'
  · subst hclose
    simp only [List.count_cons, if_neg hopen, if_pos, beq_self_eq_true]
    constructor
    · rintro ⟨htotal, hinside⟩
      have hpos : 0 < depth := by have := hinside [] List.nil_prefix; simp at this; omega
      refine ⟨hpos, by simp at htotal; omega, fun p hp => ?_⟩
      have := hinside p hp; simp at this; omega
    · rintro ⟨hpos, htotal, hinside⟩
      exact ⟨by simp; omega, fun p hp => by have := hinside p hp; simp; omega⟩
  · simp only [List.count_cons, if_neg hopen, if_neg hclose, beq_iff_eq, Nat.add_zero]
    exact ⟨fun h => ⟨h.1, h.2⟩, fun h => ⟨h.1, h.2⟩⟩

theorem angleEnd_eq_some : angleEnd depth cs = some n ↔
    ∃ body rest, cs = body ++ '>' :: rest ∧ n = body.length + 1 ∧ Closing depth body := by
  induction cs generalizing depth n with
  | nil => simp [angleEnd]
  | cons c cs ih =>
    -- the first character is the bracket looked for, or it belongs to the text
    have hmore : ∀ d : Nat, (∀ body, Closing depth (c :: body) ↔ Closing d body) → (c = '>' → 0 < depth) →
        ((angleEnd d cs).map (· + 1) = some n ↔
          ∃ body rest, c :: cs = body ++ '>' :: rest ∧ n = body.length + 1 ∧ Closing depth body) := by
      intro d hd hclose
      rw [Option.map_eq_some_iff]
      constructor
      · rintro ⟨m, hm, rfl⟩
        obtain ⟨body, rest, rfl, rfl, hbody⟩ := ih.1 hm
        exact ⟨c :: body, rest, rfl, rfl, (hd body).2 hbody⟩
      · rintro ⟨_ | ⟨e, body⟩, rest, hcs, rfl, hbody⟩
        · obtain ⟨rfl, rfl⟩ := List.cons.inj hcs
          have := hclose rfl
          have := closing_nil.1 hbody
          omega
        · obtain ⟨rfl, rfl⟩ := List.cons.inj hcs
          exact ⟨_, ih.2 ⟨body, rest, rfl, rfl, (hd body).1 hbody⟩, rfl⟩
    unfold angleEnd
    split
    · rename_i hopen
      subst hopen
      exact hmore (depth + 1) (fun body => by rw [closing_cons, if_pos rfl]) fun h => absurd h (by decide)
    rename_i hopen
    split
    · rename_i hclose
      subst hclose
      cases depth with
      | zero =>
        constructor
        · intro h
          exact ⟨[], cs, rfl, (Option.some.inj h).symm, closing_nil.2 rfl⟩
        · rintro ⟨_ | ⟨e, body⟩, rest, hcs, rfl, hbody⟩
          · rfl
          · obtain ⟨rfl, -⟩ := List.cons.inj hcs
            rw [closing_cons, if_neg hopen, if_pos rfl] at hbody
            exact absurd hbody.1 (Nat.lt_irrefl 0)
      | succ depth =>
        exact hmore depth (fun body => by simp [closing_cons]) fun _ => Nat.succ_pos depth
    · rename_i hclose
      exact hmore depth (fun body => by rw [closing_cons, if_neg hopen, if_neg hclose]) fun h => absurd h hclose

end Delimited

/-! ## Numerals -/

section Numerals

variable {cs word rest digits : List Char} {c : Char}

theorem unsignedLength_whole (h : ∀ c ∈ digits, c.isDigit = true) (hdigit : ∀ c ∈ rest.head?, c.isDigit = false)
    (hpoint : ∀ c ∈ rest.head?, c ≠ '.') : unsignedLength (digits ++ rest) = digits.length := by
  simp only [unsignedLength, run_append h hdigit, List.drop_left]
  split
  · rename_i rest'; exact absurd rfl (hpoint '.' rfl)
  · rfl

theorem unsignedLength_point (h : ∀ c ∈ digits, c.isDigit = true) :
    unsignedLength (digits ++ '.' :: rest) = if digits.length = 0 ∧ run Char.isDigit rest = 0 then 0
      else digits.length + 1 + run Char.isDigit rest := by
  have hrun : run Char.isDigit (digits ++ '.' :: rest) = digits.length := run_append h (by rintro c ⟨⟩; rfl)
  simp only [unsignedLength, hrun, List.drop_left]

/-- The front of a text up to where its digits end, and what stands there. -/
theorem exists_digits (cs : List Char) : ∃ digits rest, cs = digits ++ rest ∧ (∀ c ∈ digits, c.isDigit = true) ∧
    ((∀ c ∈ rest.head?, c.isDigit = false ∧ c ≠ '.') ∨ ∃ more, rest = '.' :: more) := by
  obtain ⟨digits, rest, rfl, hdigits, hstop⟩ := exists_run Char.isDigit cs
  refine ⟨digits, rest, rfl, hdigits, ?_⟩
  cases rest with
  | nil => exact .inl fun c hc => by cases hc
  | cons d more =>
    by_cases hd : d = '.'
    · exact .inr ⟨more, by rw [hd]⟩
    · refine .inl fun c hc => ?_
      cases hc
      exact ⟨hstop d rfl, hd⟩

/-- A numeral without a sign is taken as long as it can be. -/
theorem unsignedLength_append (h : Unsigned word) (hdigit : ∀ c ∈ rest.head?, c.isDigit = false)
    (hpoint : '.' ∉ word → ∀ c ∈ rest.head?, c ≠ '.') : unsignedLength (word ++ rest) = word.length := by
  cases h with
  | whole _ hdigits => exact unsignedLength_whole hdigits hdigit (hpoint fun hc => absurd (hdigits _ hc) (by decide))
  | point hne hdigits hfraction =>
    rw [List.append_assoc, List.cons_append, unsignedLength_point hdigits, run_append hfraction hdigit, if_neg]
    · simp only [List.length_append, List.length_cons]; omega
    · rw [List.length_eq_zero_iff, List.length_eq_zero_iff]
      exact not_and_or.2 hne

theorem unsignedLength_pos (h : Unsigned word) (rest : List Char) : 0 < unsignedLength (word ++ rest) := by
  cases h with
  | whole hne hdigits =>
    obtain ⟨more, after, rfl, hmore, hafter | ⟨after, rfl⟩⟩ := exists_digits rest
    · have hall : ∀ c ∈ word ++ more, c.isDigit = true := fun c hc => (List.mem_append.1 hc).elim (hdigits c) (hmore c)
      rw [← List.append_assoc, unsignedLength_whole hall (fun c hc => (hafter c hc).1) fun c hc => (hafter c hc).2,
        List.length_append]
      have := List.length_pos_of_ne_nil hne
      omega
    · have hall : ∀ c ∈ word ++ more, c.isDigit = true := fun c hc => (List.mem_append.1 hc).elim (hdigits c) (hmore c)
      rw [← List.append_assoc, unsignedLength_point hall, if_neg]
      · omega
      · simp [hne]
  | @point digits fraction hne hdigits hfraction =>
    rw [List.append_assoc, List.cons_append, unsignedLength_point hdigits, if_neg]
    · omega
    · rintro ⟨hwhole, hrun⟩
      rw [List.length_eq_zero_iff] at hwhole
      cases fraction with
      | nil => exact hne.elim (fun h => h hwhole) fun h => h rfl
      | cons d fraction => simp [run, hfraction d (List.mem_cons_self ..)] at hrun

theorem exists_unsigned (h : 0 < unsignedLength cs) : ∃ word rest, cs = word ++ rest ∧ Unsigned word ∧
    (∀ c ∈ rest.head?, c.isDigit = false) ∧ ('.' ∉ word → ∀ c ∈ rest.head?, c ≠ '.') := by
  obtain ⟨digits, rest, rfl, hdigits, hstop | ⟨more, rfl⟩⟩ := exists_digits cs
  · refine ⟨digits, rest, rfl, .whole ?_ hdigits, fun c hc => (hstop c hc).1, fun _ c hc => (hstop c hc).2⟩
    rintro rfl
    rw [unsignedLength_whole hdigits (fun c hc => (hstop c hc).1) fun c hc => (hstop c hc).2] at h
    exact Nat.lt_irrefl 0 h
  · obtain ⟨fraction, after, rfl, hfraction, hafter⟩ := exists_run Char.isDigit more
    rw [unsignedLength_point hdigits, run_append hfraction hafter] at h
    refine ⟨digits ++ '.' :: fraction, after, by simp, .point ?_ hdigits hfraction, hafter, fun hpoint => ?_⟩
    · by_contra hboth
      rw [not_or, not_not, not_not] at hboth
      rw [hboth.1, hboth.2] at h
      exact Nat.lt_irrefl 0 h
    · exact absurd (by simp) hpoint

/-- A numeral without a sign starts with a digit or a point. -/
theorem Unsigned.cons (h : Unsigned word) : ∃ c more, word = c :: more ∧ (c.isDigit = true ∨ c = '.') := by
  cases h with
  | whole hne hdigits =>
    cases word with
    | nil => exact absurd rfl hne
    | cons c more => exact ⟨c, more, rfl, .inl (hdigits c (List.mem_cons_self ..))⟩
  | @point digits fraction _ hdigits _ =>
    cases digits with
    | nil => exact ⟨'.', fraction, rfl, .inr rfl⟩
    | cons c digits => exact ⟨c, digits ++ '.' :: fraction, rfl, .inl (hdigits c (List.mem_cons_self ..))⟩

theorem numeralLength_unsigned (h : c ≠ '-') : numeralLength (c :: cs) = unsignedLength (c :: cs) := by
  rw [numeralLength]
  rintro cs' he
  exact h (List.cons.inj he).1

theorem numeralLength_append (h : Unsigned word) (rest : List Char) :
    numeralLength (word ++ rest) = unsignedLength (word ++ rest) := by
  obtain ⟨c, more, rfl, hc⟩ := h.cons
  refine numeralLength_unsigned ?_
  rintro rfl
  exact hc.elim (by decide) (by decide)

theorem numeralLength_minus (h : 0 < unsignedLength cs) : numeralLength ('-' :: cs) = unsignedLength cs + 1 := by
  rw [numeralLength, if_neg (by omega)]

/-- A numeral starts with a digit, with a point, or with a sign before one of them. -/
theorem of_numeralLength_pos (h : 0 < numeralLength (c :: cs)) :
    c.isDigit = true ∨ c = '.' ∨ c = '-' ∧ 0 < unsignedLength cs := by
  by_cases hdigit : c.isDigit = true
  · exact .inl hdigit
  by_cases hpoint : c = '.'
  · exact .inr (.inl hpoint)
  by_cases hminus : c = '-'
  · subst hminus
    refine .inr (.inr ⟨rfl, ?_⟩)
    rw [numeralLength] at h
    split at h
    · exact absurd h (Nat.lt_irrefl 0)
    · omega
  · rw [numeralLength_eq_zero (by simpa using hdigit) hpoint hminus] at h
    exact absurd h (Nat.lt_irrefl 0)

end Numerals

/-! ## Cuts -/

/-- A text starts with a lexeme that may end where it does. -/
def LexemeStarts (text : List Char) : Prop :=
  ∃ l word rest, word ++ rest = text ∧ Spells l word ∧ ∀ c ∈ rest.head?, l.Stops c

/-- A text starts with a piece that means nothing. -/
def SkipStarts (before text : List Char) : Prop := ∃ piece rest, piece ++ rest = text ∧ Skips before piece rest

section Cuts

variable {b : Bool} {c : Char} {cs : List Char} {n : Nat}

theorem cut_newline : cut b '\n' cs = .ok (.first .newline 0) := by rw [cut, if_pos rfl]

theorem cut_directive : cut true '#' cs = .ok (.first .directive (run (· != '\n') cs)) := by
  rw [cut, if_neg (by decide), if_pos ⟨rfl, rfl⟩]

theorem cut_lineComment : cut b '/' ('/' :: cs) = .ok (.first .comment (run (· != '\n') ('/' :: cs))) := by
  rw [cut, if_neg (by decide), if_neg (by simp), if_neg (by decide), if_pos ⟨rfl, rfl⟩]

theorem cut_blockComment (h : commentEnd cs = some n) :
    cut b '/' ('*' :: cs) = .ok (.first .comment (n + 1)) := by
  rw [cut, if_neg (by decide), if_neg (by simp), if_neg (by decide), if_neg (by simp), if_pos ⟨rfl, rfl⟩,
    List.drop_one, List.tail_cons, h]

theorem cut_line : cut b '-' ('-' :: cs) = .ok (.first (.lexeme (.arrow false)) 1) := by
  cases b <;> rfl

theorem cut_angle (h : angleEnd 0 cs = some n) :
    cut b '<' cs = .ok (.first (.lexeme (.angle (String.ofList (cs.take (n - 1))))) n) := by
  have hnumeral : numeralLength ('<' :: cs) = 0 := numeralLength_eq_zero rfl (by decide) (by decide)
  simp [cut, isBlank, startsWord, hnumeral, h]

theorem cut_numeral (h : 0 < numeralLength (c :: cs)) : cut b c cs =
    .ok ⟨.lexeme (.numeral (String.ofList ((c :: cs).take (numeralLength (c :: cs))))),
      numeralLength (c :: cs), h⟩ := by
  have hfirst := of_numeralLength_pos h
  have hne : ∀ d : Char, d.isDigit = false → d ≠ '.' → d ≠ '-' → c ≠ d := by
    rintro d hdigit hpoint hminus rfl
    rcases hfirst with hc | hc | hc
    · rw [hc] at hdigit; cases hdigit
    · exact hpoint hc
    · exact hminus hc.1
  have harrow : ∀ d : Char, d.isDigit = false → d ≠ '.' → ¬ (c = '-' ∧ cs.head? = some d) := by
    rintro d hdigit hpoint ⟨rfl, hd⟩
    rcases hfirst with hc | hc | ⟨-, hc⟩
    · cases hc
    · cases hc
    · obtain ⟨word, rest, rfl, hword, -⟩ := exists_unsigned hc
      obtain ⟨e, more, rfl, he⟩ := hword.cons
      cases hd
      rcases he with he | he
      · rw [he] at hdigit; cases hdigit
      · exact hpoint he
  have hblank : ¬ isBlank c = true := by
    have hspace := hne ' ' rfl (by decide) (by decide)
    have htab := hne '\t' rfl (by decide) (by decide)
    have hreturn := hne '\r' rfl (by decide) (by decide)
    have hfeed := hne '\x0c' rfl (by decide) (by decide)
    have hvertical := hne '\x0b' rfl (by decide) (by decide)
    simp [isBlank, hspace, htab, hreturn, hfeed, hvertical]
  rw [cut, if_neg (hne _ rfl (by decide) (by decide)), if_neg fun hc => hne '#' rfl (by decide) (by decide) hc.2,
    if_neg hblank, if_neg fun hc => hne '/' rfl (by decide) (by decide) hc.1,
    if_neg fun hc => hne '/' rfl (by decide) (by decide) hc.1, if_neg (harrow '>' rfl (by decide)),
    if_neg (harrow '-' rfl (by decide)), dif_pos h]

theorem cut_numeral_append {more rest : List Char}
    (h : numeralLength (c :: (more ++ rest)) = (c :: more).length) :
    ∃ k, cut b c (more ++ rest) = .ok k ∧ k.piece = .lexeme (.numeral (String.ofList (c :: more))) ∧
      k.length = (c :: more).length := by
  have hpos : 0 < numeralLength (c :: (more ++ rest)) := by rw [h]; exact Nat.succ_pos _
  have htext : (c :: (more ++ rest)).take (numeralLength (c :: (more ++ rest))) = c :: more := by
    rw [h, ← List.cons_append, List.take_left]
  exact ⟨_, cut_numeral hpos, by rw [htext], h⟩

/-- A numeral is taken as long as it can be. -/
theorem numeral_starts (h : 0 < numeralLength (c :: cs)) : LexemeStarts (c :: cs) := by
  by_cases hminus : c = '-'
  · subst hminus
    have hpos : 0 < unsignedLength cs := by
      rcases of_numeralLength_pos h with h | h | h
      · cases h
      · cases h
      · exact h.2
    obtain ⟨digits, rest, rfl, hdigits, hdigit, hpoint⟩ := exists_unsigned hpos
    refine ⟨_, '-' :: digits, rest, rfl, .negative hdigits, fun d hd => ⟨hdigit d hd, fun hp => ?_⟩⟩
    rw [String.toList_ofList, List.mem_cons, not_or] at hp
    exact hpoint hp.2 d hd
  · rw [numeralLength_unsigned hminus] at h
    obtain ⟨digits, rest, hcs, hdigits, hdigit, hpoint⟩ := exists_unsigned h
    refine ⟨_, digits, rest, hcs.symm, .numeral hdigits, fun d hd => ⟨hdigit d hd, fun hp => ?_⟩⟩
    rw [String.toList_ofList] at hp
    exact hpoint hp d hd

/-! A delimited text that is not closed is refused. -/

theorem cut_openComment (h : commentEnd cs = none) : cut b '/' ('*' :: cs) = .error (complaintAt '/') := by
  rw [cut, if_neg (by decide), if_neg (by simp), if_neg (by decide), if_neg (by simp), if_pos ⟨rfl, rfl⟩,
    List.drop_one, List.tail_cons, h]
  rfl

theorem cut_openQuote (h : quoteEnd cs = none) : cut b '"' cs = .error (complaintAt '"') := by
  have hnumeral : numeralLength ('"' :: cs) = 0 := numeralLength_eq_zero rfl (by decide) (by decide)
  simp [cut, isBlank, startsWord, hnumeral, h, complaintAt]

theorem cut_openAngle (h : angleEnd 0 cs = none) : cut b '<' cs = .error (complaintAt '<') := by
  have hnumeral : numeralLength ('<' :: cs) = 0 := numeralLength_eq_zero rfl (by decide) (by decide)
  simp [cut, isBlank, startsWord, hnumeral, h, complaintAt]

end Cuts

/-! ## What starts is cut -/

section Starts

variable {b : Bool} {before word piece rest : List Char} {l : Lexeme}

/-- A word that stops and a numeral that stops are the longest ones, and other lexemes end by themselves. -/
theorem Spells.cut (h : Spells l word) (hstop : ∀ c ∈ rest.head?, l.Stops c) (b : Bool) :
    ∃ c more k, word = c :: more ∧ Dot.cut b c (more ++ rest) = .ok k ∧ k.piece = .lexeme l ∧
      k.length = word.length := by
  cases h with
  | @word c more hc hmore =>
    have hrun : run continuesWord (more ++ rest) = more.length := run_append hmore hstop
    refine ⟨c, more, _, rfl, cut_word hc, ?_, by rw [hrun]; rfl⟩
    simp only [Cut.first, hrun, List.take_left]
  | numeral hdigits =>
    obtain ⟨c, more, rfl, -⟩ := hdigits.cons
    have hlength : numeralLength (c :: (more ++ rest)) = (c :: more).length := by
      rw [← List.cons_append, numeralLength_append hdigits]
      refine unsignedLength_append hdigits (fun d hd => (hstop d hd).1) fun hpoint d hd => (hstop d hd).2 ?_
      rwa [String.toList_ofList]
    obtain ⟨k, hcut, hk⟩ := cut_numeral_append (b := b) hlength
    exact ⟨c, more, k, rfl, hcut, hk⟩
  | @negative digits hdigits =>
    have hlength : unsignedLength (digits ++ rest) = digits.length := by
      refine unsignedLength_append hdigits (fun d hd => (hstop d hd).1) fun hpoint d hd => (hstop d hd).2 ?_
      rw [String.toList_ofList, List.mem_cons, not_or]
      exact ⟨by decide, hpoint⟩
    have hminus : numeralLength ('-' :: (digits ++ rest)) = ('-' :: digits).length := by
      rw [numeralLength_minus (unsignedLength_pos hdigits rest), hlength, List.length_cons]
    obtain ⟨k, hcut, hk⟩ := cut_numeral_append (b := b) hminus
    exact ⟨'-', digits, k, rfl, hcut, hk⟩
  | @quoted body hbody =>
    have hend : quoteEnd (body ++ ['"'] ++ rest) = some (body.length + 1) := by
      rw [List.append_assoc]; exact quoteEnd_append hbody rest
    refine ⟨'"', body ++ ['"'], _, rfl, cut_quoted hend, ?_, by simp [Cut.first]⟩
    simp [Cut.first]
  | @angle body hbody =>
    have hend : angleEnd 0 (body ++ ['>'] ++ rest) = some (body.length + 1) :=
      angleEnd_eq_some.2 ⟨body, rest, by simp, rfl, hbody⟩
    refine ⟨'<', body ++ ['>'], _, rfl, cut_angle hend, ?_, by simp [Cut.first]⟩
    simp [Cut.first]
  | arrow => exact ⟨'-', ['>'], _, rfl, cut_arrow, rfl, rfl⟩
  | line => exact ⟨'-', ['-'], _, rfl, cut_line, rfl, rfl⟩
  | mark hc => exact ⟨_, [], _, rfl, cut_mark hc, rfl, rfl⟩

/-- Something is cut wherever a lexeme starts, be it that one or a longer one. -/
theorem Spells.cut_ok (h : Spells l word) (b : Bool) (rest : List Char) :
    ∃ c more k, word = c :: more ∧ Dot.cut b c (more ++ rest) = .ok k := by
  have hself : (∀ c ∈ rest.head?, l.Stops c) → ∃ c more k, word = c :: more ∧ Dot.cut b c (more ++ rest) = .ok k := by
    intro hstop
    obtain ⟨c, more, k, hword, hcut, -⟩ := h.cut hstop b
    exact ⟨c, more, k, hword, hcut⟩
  cases h with
  | @word c more hc _ => exact ⟨c, more, _, rfl, cut_word hc⟩
  | numeral hdigits =>
    obtain ⟨c, more, rfl, -⟩ := hdigits.cons
    have hpos : 0 < numeralLength (c :: (more ++ rest)) := by
      rw [← List.cons_append, numeralLength_append hdigits]
      exact unsignedLength_pos hdigits rest
    exact ⟨c, more, _, rfl, cut_numeral hpos⟩
  | @negative digits hdigits =>
    have hpos : 0 < numeralLength ('-' :: (digits ++ rest)) := by
      rw [numeralLength_minus (unsignedLength_pos hdigits rest)]
      exact Nat.succ_pos _
    exact ⟨'-', digits, _, rfl, cut_numeral hpos⟩
  | quoted | angle | arrow | line | mark => exact hself fun _ _ => trivial

theorem blockComment_end {body : List Char} (h : Unclosed body) (rest : List Char) :
    commentEnd (body ++ ['*', '/'] ++ rest) = some (body.length + 2) :=
  commentEnd_eq_some.2 ⟨body, rest, by simp, rfl, h⟩

theorem Skips.cut_ok (h : Skips before piece rest) (hb : AtLineStart before → b = true) :
    ∃ c more k, piece = c :: more ∧ Dot.cut b c (more ++ rest) = .ok k := by
  cases h with
  | blank hc => exact ⟨_, [], _, rfl, cut_blank hc⟩
  | newline => exact ⟨'\n', [], _, rfl, cut_newline⟩
  | lineComment => exact ⟨'/', _, _, rfl, cut_lineComment⟩
  | blockComment hbody => exact ⟨'/', _, _, rfl, cut_blockComment (blockComment_end hbody rest)⟩
  | directive hstart =>
    obtain rfl := hb hstart
    exact ⟨'#', _, _, rfl, cut_directive⟩

theorem comment_or_refused (b : Bool) (before cs : List Char) :
    SkipStarts before ('/' :: '*' :: cs) ∨ Dot.cut b '/' ('*' :: cs) = .error (complaintAt '/') := by
  cases hend : commentEnd cs with
  | none => exact .inr (cut_openComment hend)
  | some n =>
    obtain ⟨body, rest, rfl, -, hbody⟩ := commentEnd_eq_some.1 hend
    exact .inl ⟨'/' :: '*' :: (body ++ ['*', '/']), rest, by simp, .blockComment hbody⟩

theorem quoted_or_refused (b : Bool) (cs : List Char) :
    LexemeStarts ('"' :: cs) ∨ Dot.cut b '"' cs = .error (complaintAt '"') := by
  cases hend : quoteEnd cs with
  | none => exact .inr (cut_openQuote hend)
  | some n =>
    obtain ⟨body, rest, rfl, -, hbody⟩ := exists_quoting hend
    exact .inl ⟨_, '"' :: (body ++ ['"']), rest, by simp, .quoted hbody, fun _ _ => trivial⟩

theorem angle_or_refused (b : Bool) (cs : List Char) :
    LexemeStarts ('<' :: cs) ∨ Dot.cut b '<' cs = .error (complaintAt '<') := by
  cases hend : angleEnd 0 cs with
  | none => exact .inr (cut_openAngle hend)
  | some n =>
    obtain ⟨body, rest, rfl, -, hbody⟩ := angleEnd_eq_some.1 hend
    exact .inl ⟨_, '<' :: (body ++ ['>']), rest, by simp, .angle hbody, fun _ _ => trivial⟩

theorem word_starts {c : Char} (hc : startsWord c = true) (cs : List Char) : LexemeStarts (c :: cs) := by
  obtain ⟨more, rest, rfl, hmore, hrest⟩ := exists_run continuesWord cs
  exact ⟨_, c :: more, rest, rfl, .word hc hmore, hrest⟩

/-- Somewhere in a text a piece that means nothing starts, or a lexeme that may end where it does, or the
text is refused. -/
theorem starts_or_refused {c : Char} {cs : List Char} (hb : b = true → c = '#' → AtLineStart before) :
    SkipStarts before (c :: cs) ∨ LexemeStarts (c :: cs) ∨ Dot.cut b c cs = .error (complaintAt c) := by
  -- in the order in which the cut tries them
  by_cases hnewline : c = '\n'
  · exact .inl ⟨['\n'], cs, by rw [hnewline]; rfl, .newline⟩
  by_cases hhash : b = true ∧ c = '#'
  · obtain ⟨text, rest, rfl, htext, hrest⟩ := exists_line cs
    exact .inl ⟨'#' :: text, rest, by rw [hhash.2]; rfl, .directive (hb hhash.1 hhash.2) htext hrest⟩
  by_cases hblank : isBlank c = true
  · exact .inl ⟨[c], cs, rfl, .blank hblank⟩
  by_cases hslash : c = '/' ∧ cs.head? = some '/'
  · obtain ⟨rfl, hslash⟩ := hslash
    obtain ⟨cs, rfl⟩ := List.head?_eq_some_iff.1 hslash
    obtain ⟨text, rest, rfl, htext, hrest⟩ := exists_line cs
    exact .inl ⟨'/' :: '/' :: text, rest, rfl, .lineComment htext hrest⟩
  by_cases hstar : c = '/' ∧ cs.head? = some '*'
  · obtain ⟨rfl, hstar⟩ := hstar
    obtain ⟨cs, rfl⟩ := List.head?_eq_some_iff.1 hstar
    exact (comment_or_refused b before cs).imp_right .inr
  refine .inr ?_
  by_cases harrow : c = '-' ∧ cs.head? = some '>'
  · obtain ⟨rfl, hclose⟩ := harrow
    obtain ⟨cs, rfl⟩ := List.head?_eq_some_iff.1 hclose
    exact .inl ⟨.arrow true, ['-', '>'], cs, rfl, .arrow, fun _ _ => trivial⟩
  by_cases hline : c = '-' ∧ cs.head? = some '-'
  · obtain ⟨rfl, hminus⟩ := hline
    obtain ⟨cs, rfl⟩ := List.head?_eq_some_iff.1 hminus
    exact .inl ⟨.arrow false, ['-', '-'], cs, rfl, .line, fun _ _ => trivial⟩
  by_cases hnumeral : 0 < numeralLength (c :: cs)
  · exact .inl (numeral_starts hnumeral)
  by_cases hword : startsWord c = true
  · exact .inl (word_starts hword cs)
  by_cases hquote : c = '"'
  · subst hquote
    exact quoted_or_refused b cs
  by_cases hangle : c = '<'
  · subst hangle
    exact angle_or_refused b cs
  by_cases hmark : c ∈ marks
  · exact .inl ⟨.mark c, [c], cs, rfl, .mark hmark, fun _ _ => trivial⟩
  · refine .inr ?_
    rw [cut, if_neg hnewline, if_neg hhash, if_neg hblank, if_neg hslash, if_neg hstar, if_neg harrow, if_neg hline,
      dif_neg hnumeral, if_neg hword, if_neg hquote, if_neg hangle, if_neg (by rwa [List.contains_iff_mem]),
      complaintAt, if_neg hquote, if_neg hangle]

end Starts

end StateTraces.Dot
