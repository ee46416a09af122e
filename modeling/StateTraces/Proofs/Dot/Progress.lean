import Mathlib.Data.List.Basic
import StateTraces.Dot.Cursor
import StateTraces.Proofs.Dot.Outcome

/-
The cursor makes progress. From every position a reader ends, as long as it has fuel for the tokens that are
left: it returns what the reader of lists makes of the tokens from there on and leaves the position behind
them, or it fails with the same problem and leaves the position where that was met. Readers of something are
behind it when they return, so every round of a loop takes a token, and fuel in proportion to the number of
tokens is enough for all of them.
-/

namespace StateTraces.Dot

/-- A problem tells the token at a position, or the one just before, which was passed and is no quoted text. -/
def Problem.MetAt (p : Problem) (ts : List Token) (i : Nat) : Prop :=
  p.token? = ts[i]? ∨ p.complaint = .notQuoted ∧ ∃ j, i = j + 1 ∧ j < ts.length ∧ p.token? = ts[j]?

namespace Cursor

/-- What a reader comes to from a position, next to what is made of the tokens from there on. If it returns, it
has moved by `k` tokens or more. -/
inductive Follows {α : Type} (ts : List Token) (i k : Nat) :
    Option (Except Problem α × Nat) → Except Problem (α × List Token) → Prop
  | returns {v : α} {j : Nat} (hmoved : i + k ≤ j) (hj : j ≤ ts.length) :
      Follows ts i k (some (.ok v, j)) (.ok (v, ts.drop j))
  | refuses {p : Problem} {j : Nat} (hmoved : i ≤ j) (hj : j ≤ ts.length) (hp : p.MetAt ts j) :
      Follows ts i k (some (.error p, j)) (.error p)

variable {α β : Type} {ts : List Token} {i k fuel : Nat}

theorem bind_returned {c : Cursor α} {g : α → Cursor β} {v : α} {j : Nat} (h : c i = some (.ok v, j)) :
    (c >>= g) i = g v j := by
  show Cursor.bind c g i = _
  rw [Cursor.bind, h]

theorem bind_failed {c : Cursor α} {g : α → Cursor β} {p : Problem} {j : Nat} (h : c i = some (.error p, j)) :
    (c >>= g) i = some (.error p, j) := by
  show Cursor.bind c g i = _
  rw [Cursor.bind, h]

section Follows

variable {o o' : Option (Except Problem α × Nat)} {r r' : Except Problem (α × List Token)}

/-- From a position further on, more than is asked for. -/
theorem Follows.weaken {i' k' : Nat} (h : Follows ts i k o r) (hi : i' ≤ i) (hk : i' + k' ≤ i + k) :
    Follows ts i' k' o r := by
  cases h with
  | returns hmoved hj => exact .returns (by omega) hj
  | refuses hmoved hj hp => exact .refuses (by omega) hj hp

theorem Follows.ite {P : Prop} [Decidable P] (h : P → Follows ts i k o r) (h' : ¬ P → Follows ts i k o' r') :
    Follows ts i k (if P then o else o') (if P then r else r') := by
  split
  · exact h ‹_›
  · exact h' ‹_›

/-- Nothing is read. -/
theorem Follows.stay {v : α} (hi : i ≤ ts.length) : Follows ts i 0 (some (.ok v, i)) (.ok (v, ts.drop i)) :=
  .returns (Nat.le_refl i) hi

/-- One reader after another, from here or from a position further on. The second one starts where the first one
left the position. -/
theorem Follows.bind_from {i' k' : Nat} {c : Cursor α} {g : α → Cursor β} {f : α → Reader β} (hi : i' ≤ i)
    (hk : i' + k' ≤ i + k) (h : Follows ts i k (c i) r)
    (hg : ∀ v j, i + k ≤ j → j ≤ ts.length → Follows ts j 0 (g v j) (f v (ts.drop j))) :
    Follows ts i' k' ((c >>= g) i) (andThen r f) := by
  generalize ho : c i = o at h
  cases h with
  | returns hmoved hj =>
    rw [bind_returned ho]
    exact (hg _ _ hmoved hj).weaken (by omega) (by omega)
  | refuses hmoved hj hp =>
    rw [bind_failed ho]
    exact .refuses (by omega) hj hp

theorem Follows.bind {c : Cursor α} {g : α → Cursor β} {f : α → Reader β} (h : Follows ts i k (c i) r)
    (hg : ∀ v j, i + k ≤ j → j ≤ ts.length → Follows ts j 0 (g v j) (f v (ts.drop j))) :
    Follows ts i k ((c >>= g) i) (andThen r f) :=
  .bind_from (Nat.le_refl i) (Nat.le_refl _) h hg

/-- Making something of what was read. -/
theorem Follows.map {c : Cursor α} {f : α → β} (h : Follows ts i k (c i) r) :
    Follows ts i k ((c >>= fun v => pure (f v)) i) (andThen r fun v rest => .ok (f v, rest)) :=
  h.bind fun _ _ _ hj => .stay hj

end Follows

/-! ## Single tokens -/

theorem token_cases (hi : i ≤ ts.length) : (i = ts.length ∧ ts.drop i = [] ∧ ts[i]? = none) ∨
    ∃ t, i < ts.length ∧ ts.drop i = t :: ts.drop (i + 1) ∧ ts[i]? = some t := by
  rcases Nat.eq_or_lt_of_le hi with rfl | hlt
  · exact .inl ⟨rfl, List.drop_length, List.getElem?_eq_none (Nat.le_refl _)⟩
  · exact .inr ⟨ts[i], hlt, List.drop_eq_getElem_cons hlt, List.getElem?_eq_getElem hlt⟩

theorem of_headIs {p : Token → Bool} (h : headIs p (ts.drop i) = true) :
    ∃ t, i < ts.length ∧ ts.drop i = t :: ts.drop (i + 1) ∧ ts[i]? = some t := by
  rcases Nat.lt_or_ge i ts.length with hlt | hge
  · exact (token_cases (Nat.le_of_lt hlt)).resolve_left fun hend => by omega
  · rw [List.drop_eq_nil_of_le hge] at h
    cases h

theorem lt_of_headIs {p : Token → Bool} (h : headIs p (ts.drop i) = true) : i < ts.length := by
  obtain ⟨-, hlt, -⟩ := of_headIs h
  exact hlt

theorem headIs_drop (p : Token → Bool) (ts : List Token) (i : Nat) : headIs p (ts.drop i) = ts[i]?.any p := by
  rw [headIs, List.head?_drop]

theorem peek_bind (n : Nat) (g : Option Token → Cursor β) : (peek ts n >>= g) i = g ts[i + n]? i := rfl

theorem skip_bind (g : Unit → Cursor β) : (skip >>= g) i = g () (i + 1) := rfl

theorem sees_ite (p : Token → Bool) (c d : Cursor β) :
    (sees ts p >>= fun b => if b = true then c else d) i = if headIs p (ts.drop i) = true then c i else d i := by
  rw [headIs_drop]
  show (if ts[i]?.any p = true then c else d) i = _
  split <;> rfl

theorem accept_ite (m : Char) (c d : Cursor β) : (acceptMark ts m >>= fun b => if b = true then c else d) i =
    if headIs (·.isMark m) (ts.drop i) = true then c (i + 1) else d i := by
  by_cases h : headIs (·.isMark m) (ts.drop i) = true
  · have haccept : acceptMark ts m i = some (.ok true, i + 1) := by rw [acceptMark, sees_ite, if_pos h]; rfl
    rw [bind_returned haccept, if_pos h]
    rfl
  · have haccept : acceptMark ts m i = some (.ok false, i) := by rw [acceptMark, sees_ite, if_neg h]; rfl
    rw [bind_returned haccept, if_neg h]
    rfl

theorem fail_follows (complaint : Complaint) (hi : i ≤ ts.length) :
    Follows ts i k (fail ts complaint none i : Option (Except Problem α × Nat)) (problem complaint (ts.drop i)) := by
  rw [problem, List.head?_drop]
  exact .refuses (Nat.le_refl i) hi (.inl rfl)

/-- A complaint that tells the token found. -/
theorem fail_found (complaint : Option String → Complaint) (hi : i ≤ ts.length) :
    Follows ts i k ((peek ts 0 >>= fun t => fail ts (complaint (t.map Token.value)) none : Cursor α) i)
      (problem (complaint ((ts.drop i).head?.map Token.value)) (ts.drop i)) := by
  rw [List.head?_drop]
  exact fail_follows _ hi

theorem advance_token {t : Token} (h : ts[i]? = some t) : advance ts i = some (.ok t, i + 1) := by
  rw [advance, peek_bind, Nat.add_zero, h]
  rfl

theorem advance_end (h : ts[i]? = none) : advance ts i = some (.error ⟨.endOfText, none⟩, i) := by
  rw [advance, peek_bind, Nat.add_zero, h]
  show some (Except.error (Problem.mk .endOfText (Option.or none ts[i]?)), i) = _
  rw [h]
  rfl

theorem expectMark_follows (m : Char) (hi : i ≤ ts.length) :
    Follows ts i 1 (expectMark ts m i) (outcome (readMark m (ts.drop i))) := by
  rw [expectMark, accept_ite, outcome_readMark, List.drop_drop]
  refine .ite (fun hat => ?_) fun _ => fail_found (.expectedMark m) hi
  exact .returns (Nat.le_refl _) (lt_of_headIs hat)

theorem separators_follow (hi : i ≤ ts.length) (hfuel : ts.length - i < fuel) :
    Follows ts i 0 (separators ts fuel i) (.ok ((), skipSeparators (ts.drop i))) := by
  induction fuel generalizing i with
  | zero => omega
  | succ fuel ih =>
    have hmore : ∀ {m : Char}, headIs (·.isMark m) (ts.drop i) = true → (m = ';' ∨ m = ',') →
        Follows ts i 0 (separators ts fuel (i + 1)) (.ok ((), skipSeparators (ts.drop i))) := by
      intro m hat hm
      obtain ⟨t, hlt, hdrop, -⟩ := of_headIs hat
      rw [hdrop, headIs_cons] at hat
      have hsep : t.isSeparator = true := by
        rcases hm with rfl | rfl <;> simp [Token.isSeparator, hat]
      have hskip : skipSeparators (ts.drop i) = skipSeparators (ts.drop (i + 1)) := by
        rw [hdrop, skipSeparators, List.dropWhile_cons_of_pos hsep, skipSeparators]
      rw [hskip]
      exact (ih (by omega) (by omega)).weaken (by omega) (by omega)
    rw [separators, accept_ite]
    split
    · exact hmore ‹_› (.inl rfl)
    rw [accept_ite]
    split
    · exact hmore ‹_› (.inr rfl)
    · rename_i hsemicolon hcomma
      have hskip : skipSeparators (ts.drop i) = ts.drop i := by
        rcases token_cases hi with ⟨-, hdrop, -⟩ | ⟨t, -, hdrop, -⟩
        · rw [hdrop]; rfl
        · rw [hdrop, headIs_cons] at hsemicolon hcomma
          rw [hdrop, skipSeparators, List.dropWhile_cons_of_neg (by simp [Token.isSeparator, hsemicolon, hcomma])]
      rw [hskip]
      exact .stay hi

/-- Reading on behind the separators. -/
theorem Follows.separated {g : Unit → Cursor β} {f : Reader β} (hi : i ≤ ts.length) (hfuel : ts.length - i < fuel)
    (hg : ∀ j, i ≤ j → j ≤ ts.length → Follows ts j 0 (g () j) (f (ts.drop j))) :
    Follows ts i 0 ((separators ts fuel >>= g) i) (f (skipSeparators (ts.drop i))) :=
  .bind (f := fun _ => f) (separators_follow hi hfuel) fun _ => hg

/-! ## Identifiers -/

theorem joined_follows (before : String) (hi : i ≤ ts.length) (hfuel : ts.length - i < fuel) :
    Follows ts i 0 (joined ts fuel before i) (outcome (readJoined before (ts.drop i))) := by
  induction fuel generalizing before i with
  | zero => omega
  | succ fuel ih =>
    rw [joined, sees_ite, outcome_readJoined, List.drop_drop]
    refine .ite (fun hat => ?_) fun _ => .stay hi
    have hlt := lt_of_headIs hat
    rw [skip_bind]
    rcases token_cases hlt with ⟨hend, hdrop, hget⟩ | ⟨next, hlt', hdrop, hget⟩
    · rw [bind_failed (advance_end hget), hdrop]
      exact .refuses (by omega) hlt (.inl hget.symm)
    · rw [bind_returned (advance_token hget), hdrop]
      show Follows ts i 0 _ (readPiece before next (ts.drop (i + 1 + 1)))
      unfold readPiece
      cases next.lexeme with
      | quoted s => exact (ih (before ++ s) hlt' (by omega)).weaken (by omega) (by omega)
      | _ => exact .refuses (by omega) hlt' (.inr ⟨rfl, i + 1, rfl, hlt', hget.symm⟩)

theorem identifier_follows (hi : i ≤ ts.length) (hfuel : ts.length - i ≤ fuel) :
    Follows ts i 1 (identifier ts fuel i) (outcome (readIdentifier (ts.drop i))) := by
  rw [identifier, sees_ite, outcome_readIdentifier]
  refine .ite (fun hat => ?_) fun _ => fail_found .expectedIdentifier hi
  obtain ⟨t, hlt, hdrop, hget⟩ := of_headIs hat
  rw [bind_returned (advance_token hget), hdrop]
  show Follows ts i 1 _ (readIdentifierTail t (ts.drop (i + 1)))
  unfold readIdentifierTail
  cases t.lexeme with
  | quoted s => exact (joined_follows s hlt (by omega)).weaken (by omega) (by omega)
  | _ => exact .returns (Nat.le_refl _) hlt

/-- The key of an assignment is one token. -/
theorem identifier_key {t : Token} (hget : ts[i]? = some t) (hid : t.isIdentifier = true)
    (hnext : headIs (·.isMark '=') (ts.drop (i + 1)) = true) :
    ∃ v, identifier ts (fuel + 1) i = some (.ok v, i + 1) := by
  have hplus : ¬ headIs (·.isMark '+') (ts.drop (i + 1)) = true := by
    obtain ⟨eq, -, hdrop, -⟩ := of_headIs hnext
    rw [hdrop, headIs_cons] at hnext ⊢
    rw [Token.isMark, eq_of_beq hnext]
    decide
  have hat : headIs Token.isIdentifier (ts.drop i) = true := by rw [headIs_drop, hget]; exact hid
  rw [identifier, sees_ite, if_pos hat, bind_returned (advance_token hget)]
  cases t.lexeme with
  | quoted s =>
    refine ⟨s, ?_⟩
    show joined ts (fuel + 1) s (i + 1) = _
    rw [joined, sees_ite, if_neg hplus]
    rfl
  | _ => exact ⟨t.value, rfl⟩

theorem anchors_follow (hi : i ≤ ts.length) (hfuel : ts.length - i < fuel) :
    Follows ts i 0 (anchors ts fuel i) (outcome (readAnchors (ts.drop i))) := by
  induction fuel generalizing i with
  | zero => omega
  | succ fuel ih =>
    rw [anchors, accept_ite, outcome_readAnchors, List.drop_drop]
    refine .ite (fun hat => ?_) fun _ => .stay hi
    have hlt := lt_of_headIs hat
    exact .bind_from (by omega) (by omega) (identifier_follows hlt (by omega)) fun _ j _ hj => ih hj (by omega)

theorem vertex_follows (hi : i ≤ ts.length) (hfuel : ts.length - i ≤ fuel) :
    Follows ts i 1 (vertex ts fuel i) (outcome (readVertex (ts.drop i))) := by
  rw [vertex, outcome_readVertex]
  exact .bind (identifier_follows hi hfuel) fun name j _ hj => .map (anchors_follow hj (by omega))

/-! ## Attributes -/

theorem pair_follows (hi : i ≤ ts.length) (hfuel : ts.length - i ≤ fuel) :
    Follows ts i 1 (pair ts fuel i) (outcome (readAttribute (ts.drop i))) := by
  rw [pair, outcome_readAttribute]
  refine .bind (identifier_follows hi hfuel) fun key j _ hj => ?_
  rw [accept_ite, readValue_eq, List.drop_drop]
  refine .ite (fun hat => ?_) fun _ => .stay hj
  exact .weaken (.map (identifier_follows (lt_of_headIs hat) (by omega))) (by omega) (by omega)

theorem attributes_follow (hi : i ≤ ts.length) (hfuel : ts.length - i < fuel) :
    Follows ts i 0 (attributes ts fuel i) (outcome (readAttributes (ts.drop i))) := by
  induction fuel generalizing i with
  | zero => omega
  | succ fuel ih =>
    rw [attributes, accept_ite, outcome_readAttributes, List.drop_drop]
    refine .ite (fun hat => .returns (by omega) (lt_of_headIs hat)) fun _ => ?_
    refine .bind_from (Nat.le_refl i) (by omega) (pair_follows hi (by omega)) fun a j _ hj => ?_
    refine .separated (f := fun rest => andThen (outcome (readAttributes rest)) fun more rest => .ok (a :: more, rest))
      hj (by omega) fun l _ hl => ?_
    exact .map (ih hl (by omega))

theorem lists_follow (hi : i ≤ ts.length) (hfuel : ts.length - i < fuel) :
    Follows ts i 0 (lists ts fuel i) (outcome (readAttributeLists (ts.drop i))) := by
  induction fuel generalizing i with
  | zero => omega
  | succ fuel ih =>
    rw [lists, accept_ite, outcome_readAttributeLists, List.drop_drop]
    refine .ite (fun hat => ?_) fun _ => .stay hi
    have hlt := lt_of_headIs hat
    exact .bind_from (by omega) (by omega) (attributes_follow hlt (by omega)) fun one j _ hj => .map (ih hj (by omega))

/-- What is read where attribute lists may stand, or have to. -/
def readLists (required : Bool) : Reader (List (String × String)) := fun ts =>
  if required && !headIs (·.isMark '[') ts then problem .expectedAttributes ts else outcome (readAttributeLists ts)

theorem attributeLists_follow (required : Bool) (hi : i ≤ ts.length) (hfuel : ts.length - i < fuel) :
    Follows ts i 0 (attributeLists ts fuel required i) (readLists required (ts.drop i)) := by
  have hlists : Follows ts i 0 (lists ts fuel i) (outcome (readAttributeLists (ts.drop i))) := lists_follow hi hfuel
  unfold readLists
  rw [headIs_drop]
  show Follows ts i 0 ((if (required && !ts[i]?.any (·.isMark '[')) = true then _ else _ : Cursor _) i) _
  split
  · exact fail_follows _ hi
  · exact hlists

/-! ## Statements -/

theorem readDefaults_eq (ts : List Token) :
    readDefaults ts = andThen (readLists true ts) fun _ rest => .ok (.defaults, rest) := by
  unfold readDefaults readLists
  cases headIs (·.isMark '[') ts <;> rfl

theorem name_follows (hi : i ≤ ts.length) (hfuel : ts.length - i ≤ fuel) :
    Follows ts i 0 (name? ts fuel i) (outcome (readName (ts.drop i))) := by
  rw [name?, sees_ite, outcome_readName]
  refine .ite (fun hat => ?_) fun _ => .stay hi
  exact .weaken (.map (identifier_follows hi hfuel)) (Nat.le_refl i) (by omega)

theorem groupHead_follows (hi : i ≤ ts.length) (hfuel : ts.length - i ≤ fuel) :
    Follows ts i 1 (groupHead ts fuel i) (outcome (readGroupHead (ts.drop i))) := by
  rw [groupHead, sees_ite, outcome_readGroupHead, List.drop_drop]
  refine .ite (fun hat => ?_) fun _ => expectMark_follows _ hi
  rw [skip_bind]
  refine .bind_from (by omega) (by omega) (name_follows (lt_of_headIs hat) (by omega)) fun name j _ hj => ?_
  exact (expectMark_follows _ hj).weaken (Nat.le_refl j) (by omega)

-- by the fuel that is left: a call of a reader costs one, and what calls it next at the same position ranks higher
mutual

theorem group_follows {i fuel : Nat} (hi : i ≤ ts.length) (hfuel : 6 * (ts.length - i) < fuel) :
    Follows ts i 1 (group ts fuel i) (outcome (readGroup (ts.drop i))) := by
  match fuel with
  | 0 => omega
  | fuel + 1 =>
    rw [group, outcome_readGroup]
    refine .bind (groupHead_follows hi (by omega)) fun _ j _ hj => ?_
    refine .bind (statements_follow hj (by omega)) fun body l _ hl => ?_
    exact .weaken (.map (expectMark_follows _ hl)) (Nat.le_refl l) (by omega)
termination_by fuel

theorem endpoint_follows {i fuel : Nat} (hi : i ≤ ts.length) (hfuel : 6 * (ts.length - i) + 1 < fuel) :
    Follows ts i 1 (endpoint ts fuel i) (outcome (readEndpoint (ts.drop i))) := by
  match fuel with
  | 0 => omega
  | fuel + 1 =>
    rw [endpoint, sees_ite, outcome_readEndpoint]
    exact .ite (fun _ => .map (group_follows hi (by omega))) fun _ => .map (vertex_follows hi (by omega))
termination_by fuel

theorem chain_follows {i fuel : Nat} (hi : i ≤ ts.length) (hfuel : 6 * (ts.length - i) + 2 < fuel) :
    Follows ts i 0 (chain ts fuel i) (outcome (readChain (ts.drop i))) := by
  match fuel with
  | 0 => omega
  | fuel + 1 =>
    rw [chain, sees_ite, outcome_readChain, List.drop_drop]
    refine .ite (fun hat => ?_) fun _ => .stay hi
    have hlt := lt_of_headIs hat
    rw [skip_bind]
    refine .bind_from (by omega) (by omega) (endpoint_follows hlt (by omega)) fun one j _ hj => ?_
    exact .map (chain_follows hj (by omega))
termination_by fuel

theorem edgeStatement_follows {i fuel : Nat} (first : Endpoint) (hi : i ≤ ts.length)
    (hfuel : 6 * (ts.length - i) + 3 < fuel) :
    Follows ts i 0 (edgeStatement ts fuel first i) (readEdges first (ts.drop i)) := by
  match fuel with
  | 0 => omega
  | fuel + 1 =>
    rw [edgeStatement, readEdges]
    refine .bind (chain_follows hi (by omega)) fun more j _ hj => ?_
    exact .map (attributeLists_follow false hj (by omega))
termination_by fuel

theorem statement_follows {i fuel : Nat} (hi : i ≤ ts.length) (hfuel : 6 * (ts.length - i) + 4 < fuel) :
    Follows ts i 1 (statement ts fuel i) (outcome (readStatement (ts.drop i))) := by
  match fuel with
  | 0 => omega
  | 1 => omega
  | fuel + 2 =>
    rw [statement, peek_bind, Nat.add_zero]
    rcases token_cases hi with ⟨-, hdrop, hget⟩ | ⟨t, hlt, hdrop, hget⟩
    · rw [hget, hdrop, outcome_readStatement_nil, ← hdrop]
      exact fail_follows _ hi
    rw [hget, hdrop, outcome_readStatement_cons, ← hdrop]
    show Follows ts i 1 ((if _ then _ else _ : Cursor Statement) i) _
    by_cases hdefaults : (t.isKeyword "graph" || t.isKeyword "node" || t.isKeyword "edge") = true
    · rw [if_pos hdefaults, if_pos hdefaults, skip_bind, readDefaults_eq]
      exact .weaken (.map (attributeLists_follow true hlt (by omega))) (by omega) (by omega)
    rw [if_neg hdefaults, if_neg hdefaults]
    by_cases hgroup : t.opensGroup = true
    · rw [if_pos hgroup, if_pos hgroup]
      refine .bind (group_follows hi (by omega)) fun body j _ hj => ?_
      rw [sees_ite, outcome_readAfter_group]
      exact .ite (fun _ => edgeStatement_follows _ hj (by omega)) fun _ => .stay hj
    rw [if_neg hgroup, if_neg hgroup]
    by_cases hid : t.isIdentifier = true
    · rw [if_pos hid, if_pos hid, peek_bind, ← headIs_drop]
      by_cases heq : headIs (·.isMark '=') (ts.drop (i + 1)) = true
      · rw [if_pos heq, if_pos heq, List.drop_drop]
        obtain ⟨v, hkey⟩ := identifier_key hget hid heq
        rw [bind_returned hkey, skip_bind]
        exact .weaken (.map (identifier_follows (lt_of_headIs heq) (by omega))) (by omega) (by omega)
      · rw [if_neg heq, if_neg heq]
        refine .bind (vertex_follows hi (by omega)) fun name j _ hj => ?_
        rw [sees_ite, outcome_readAfter_vertex]
        refine .ite (fun _ => edgeStatement_follows _ hj (by omega)) fun _ => ?_
        exact .map (attributeLists_follow false hj (by omega))
    · rw [if_neg hid, if_neg hid, hdrop]
      exact .refuses (Nat.le_refl _) hi (.inl hget.symm)
termination_by fuel

theorem statements_follow {i fuel : Nat} (hi : i ≤ ts.length) (hfuel : 6 * (ts.length - i) + 5 < fuel) :
    Follows ts i 0 (statements ts fuel i) (outcome (readStatements (ts.drop i))) := by
  match fuel with
  | 0 => omega
  | fuel + 1 =>
    rw [statements, peek_bind, Nat.add_zero, outcome_readStatements]
    rcases token_cases hi with ⟨-, hdrop, hget⟩ | ⟨t, hlt, hdrop, hget⟩
    · rw [hget, if_pos (by rw [hdrop]; rfl)]
      exact .stay hi
    rw [hget]
    show Follows ts i 0 ((if _ then _ else _ : Cursor (List Statement)) i) _
    have hstop : ((ts.drop i).isEmpty || headIs (·.isMark '\x7d') (ts.drop i)) = t.isMark '\x7d' := by
      rw [hdrop, headIs_cons]
      rfl
    rw [hstop]
    by_cases hclose : t.isMark '\x7d' = true
    · rw [if_pos hclose, if_pos hclose]
      exact .stay hi
    · rw [if_neg hclose, if_neg hclose]
      refine .bind_from (Nat.le_refl i) (by omega) (statement_follows hi (by omega)) fun one j _ hj => ?_
      refine .separated (f := fun rest => andThen (outcome (readStatements rest)) fun more rest =>
        .ok (one :: more, rest)) hj (by omega) fun l _ hl => ?_
      exact .map (statements_follow hl (by omega))
termination_by fuel

end

/-! ## Documents -/

theorem strict_ends (ts : List Token) (i : Nat) :
    strict ts i = some (.ok (), if headIs (·.isKeyword "strict") (ts.drop i) = true then i + 1 else i) := by
  rw [strict, sees_ite]
  split <;> rfl

theorem graphWord_follows (hi : i ≤ ts.length) : Follows ts i 1 (graphWord ts i) (readWord (ts.drop i)) := by
  rw [graphWord, sees_ite, readWord, List.drop_drop]
  exact .ite (fun hat => .returns (Nat.le_refl _) (lt_of_headIs hat)) fun _ => fail_follows _ hi

theorem readEnd_ite (d : Document) (ts : List Token) :
    readEnd d ts = if headIs (fun _ => true) ts = true then problem .textAfterGraph ts else .ok (d, ts) := by
  cases ts <;> rfl

theorem document_follows (ts : List Token) (hfuel : 6 * ts.length + 5 < fuel) :
    Follows ts 0 0 (document ts fuel 0) ((readDocument ts).map fun d => (d, [])) := by
  rw [document, bind_returned (strict_ends ts 0), readDocument_eq, readGraphWord_eq, List.drop_zero]
  -- the position behind `strict`, if it is there
  obtain ⟨i, hi, hpos, hdrop⟩ : ∃ i, i ≤ ts.length ∧
      (if headIs (·.isKeyword "strict") ts = true then 0 + 1 else 0) = i ∧
      (if headIs (·.isKeyword "strict") ts = true then ts.drop 1 else ts) = ts.drop i := by
    split
    · exact ⟨1, lt_of_headIs (i := 0) ‹_›, rfl, rfl⟩
    · exact ⟨0, Nat.zero_le _, rfl, rfl⟩
  rw [hpos, hdrop]
  refine .bind_from (Nat.zero_le i) (by omega) (graphWord_follows hi) fun _ j _ hj => ?_
  refine .bind (name_follows hj (by omega)) fun name k _ hk => ?_
  refine .bind_from (Nat.le_refl k) (by omega) (expectMark_follows _ hk) fun _ l _ hl => ?_
  refine .bind (statements_follow hl (by omega)) fun body m _ hm => ?_
  refine .bind_from (Nat.le_refl m) (by omega) (expectMark_follows _ hm) fun _ n _ hn => ?_
  rw [sees_ite, readEnd_ite]
  exact .ite (fun _ => fail_follows _ hn) fun _ => .stay hn

/-! ## Progress -/

/-- What the readers come to from a position. Those that read something move on, and none of them goes back or
past the end. -/
structure Progresses (ts : List Token) (fuel i : Nat) : Prop where
  identifier : Follows ts i 1 (identifier ts fuel i) (outcome (readIdentifier (ts.drop i)))
  vertex : Follows ts i 1 (vertex ts fuel i) (outcome (readVertex (ts.drop i)))
  group : Follows ts i 1 (group ts fuel i) (outcome (readGroup (ts.drop i)))
  statement : Follows ts i 1 (statement ts fuel i) (outcome (readStatement (ts.drop i)))
  statements : Follows ts i 0 (statements ts fuel i) (outcome (readStatements (ts.drop i)))
  edgeStatement : ∀ first, Follows ts i 0 (edgeStatement ts fuel first i) (readEdges first (ts.drop i))
  attributeLists : ∀ required, Follows ts i 0 (attributeLists ts fuel required i) (readLists required (ts.drop i))

/-- How reading a document ends: behind all tokens with the document, or with a problem where it was met, which
is behind all tokens if the problem is that they end. -/
inductive Finished (ts : List Token) : Option (Except Problem Document × Nat) → Prop
  | read {d : Document} (h : readDocument ts = .ok d) : Finished ts (some (.ok d, ts.length))
  | failed {p : Problem} {i : Nat} (h : readDocument ts = .error p) (hi : i ≤ ts.length) (hp : p.MetAt ts i)
      (hend : p.token? = none → i = ts.length) : Finished ts (some (.error p, i))

theorem finished_document (ts : List Token) (hfuel : 6 * ts.length + 5 < fuel) :
    Finished ts (document ts fuel 0) := by
  have h := document_follows ts hfuel
  generalize document ts fuel 0 = o at h
  cases hread : readDocument ts with
  | ok d =>
    rw [hread] at h
    generalize hr : (Except.ok d : Except Problem Document).map (fun d => (d, ([] : List Token))) = r at h
    cases h with
    | refuses => cases hr
    | @returns v j _ hj =>
      obtain ⟨rfl, hdrop⟩ := Prod.mk.inj (Except.ok.inj hr)
      have hlength := List.drop_eq_nil_iff.1 hdrop.symm
      obtain rfl := Nat.le_antisymm hj hlength
      exact .read hread
  | error p =>
    rw [hread] at h
    cases h with
    | refuses _ hj hp =>
      refine .failed hread hj hp fun hnone => ?_
      rcases hp with hp | ⟨-, j, -, hlt, hp⟩
      · rw [hnone] at hp
        exact Nat.le_antisymm hj (List.getElem?_eq_none_iff.1 hp.symm)
      · rw [hnone, List.getElem?_eq_getElem hlt] at hp
        cases hp

/-- From every position the readers end, with fuel in proportion to the tokens that are left. An identifier, a
vertex, a group and a statement move the position on when they return, statements, edges and attribute lists do
not move it back, and it never passes the end. A document that is read leaves it behind all tokens. One that is
refused leaves it at the token that the problem tells, or behind the one that is joined and is no quoted text;
if the problem is that the tokens end, this is behind all of them, too. -/
theorem makes_progress (ts : List Token) :
    (∀ fuel i, i ≤ ts.length → 6 * (ts.length - i) + 5 < fuel → Progresses ts fuel i) ∧
      ∀ fuel, 6 * ts.length + 5 < fuel → Finished ts (document ts fuel 0) := by
  constructor
  · intro fuel i hi hfuel
    exact {
      identifier := identifier_follows hi (by omega)
      vertex := vertex_follows hi (by omega)
      group := group_follows hi (by omega)
      statement := statement_follows hi (by omega)
      statements := statements_follow hi hfuel
      edgeStatement := fun first => edgeStatement_follows first hi (by omega)
      attributeLists := fun required => attributeLists_follow required hi (by omega) }
  · intro fuel hfuel
    exact finished_document ts hfuel

/-- A document with one edge. -/
theorem makes_progress_edge :
    let ts : List Token := [⟨.word "graph", ⟨1, 1⟩⟩, ⟨.mark '\x7b', ⟨1, 7⟩⟩, ⟨.word "a", ⟨1, 9⟩⟩,
      ⟨.arrow false, ⟨1, 11⟩⟩, ⟨.word "b", ⟨1, 14⟩⟩, ⟨.mark '\x7d', ⟨1, 16⟩⟩]
    2 ≤ ts.length ∧ 6 * (ts.length - 2) + 5 < 42 ∧ Progresses ts 42 2 ∧ 6 * ts.length + 5 < 42 ∧
      Finished ts (document ts 42 0) ∧ statement ts 42 2 = some (.ok (.edges (.vertex "a") [.vertex "b"] []), 5) ∧
      document ts 42 0 = some (.ok ⟨none, [.edges (.vertex "a") [.vertex "b"] []]⟩, 6) := by
  intro ts
  obtain ⟨hall, hend⟩ := makes_progress ts
  exact ⟨by decide, by decide, hall 42 2 (by decide) (by decide), by decide, hend 42 (by decide), rfl, rfl⟩

/-- A document that is not closed is refused at its end, with the position behind all tokens. -/
theorem refused_at_end :
    (¬ ∀ (ts : List Token) (fuel : Nat), 6 * ts.length + 5 < fuel → ∀ r i, document ts fuel 0 = some (r, i) →
      (i = ts.length ↔ ∃ d, r = .ok d)) ∧
    ∃ ts, tokens "digraph \x7b" = .ok ts ∧
      document ts 18 0 = some (.error ⟨.expectedMark '\x7d' none, none⟩, ts.length) := by
  have htokens : tokens "digraph \x7b" = .ok [⟨.word "digraph", ⟨1, 1⟩⟩, ⟨.mark '\x7b', ⟨1, 9⟩⟩] := by decide +kernel
  have hrefused : document [⟨.word "digraph", ⟨1, 1⟩⟩, ⟨.mark '\x7b', ⟨1, 9⟩⟩] 18 0 =
      some (.error ⟨.expectedMark '\x7d' none, none⟩, 2) := rfl
  refine ⟨fun h => ?_, _, htokens, hrefused⟩
  obtain ⟨d, hd⟩ := (h _ 18 (by decide) _ _ hrefused).1 rfl
  cases hd

end Cursor

end StateTraces.Dot
