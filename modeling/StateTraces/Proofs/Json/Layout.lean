import StateTraces.Json.Reader
import StateTraces.Proofs.Graph
import StateTraces.Proofs.Json.Scalar

/-
Layouts of JSON values. A value may be written with gaps between its marks and its parts, on one line or
spread over many. However it is laid out, the reader gives the same value again, provided that no object
has a key twice and that there are no floating-point values.
-/

namespace StateTraces.Json

/-! ## Values and their layouts -/

/-- A value without floating-point values, in which no object has a key twice. -/
inductive Plain : Json → Prop where
  | null : Plain .null
  | bool (b : Bool) : Plain (.bool b)
  | int (n : Int) : Plain (.int n)
  | str (s : String) : Plain (.str s)
  | arr {js : List Json} (hitems : ∀ j ∈ js, Plain j) : Plain (.arr js)
  | obj {ms : Table String Json} (hkeys : ms.keys.Nodup) (hvalues : ∀ m ∈ ms, Plain m.2) : Plain (.obj ms)

/-- Nothing but gaps. -/
def Gaps (cs : List Char) : Prop := ∀ c ∈ cs, Token.isGap c = true

mutual

/-- The text is a layout of the value. -/
inductive Writes : Json → List Char → Prop where
  | null : Writes .null "null".toList
  | bool (b : Bool) : Writes (.bool b) (if b then "true" else "false").toList
  | int (n : Int) : Writes (.int n) (Text.decimal n)
  | str (alphabet : Alphabet) (s : String) : Writes (.str s) (strChars alphabet s)
  | noItems : Writes (.arr []) ['[', ']']
  | arr {j : Json} {js : List Json} {gaps cs more : List Char} (hgaps : Gaps gaps) (hfirst : Writes j cs)
      (hmore : WritesItems js more) : Writes (.arr (j :: js)) ('[' :: (gaps ++ (cs ++ more)))
  | noMembers : Writes (.obj []) ['\x7b', '\x7d']
  | obj {k : String} {j : Json} {ms : Table String Json} {gaps gaps' cs more : List Char} (alphabet : Alphabet)
      (hgaps : Gaps gaps) (hgaps' : Gaps gaps') (hfirst : Writes j cs) (hmore : WritesMembers ms more)
      (hkeys : (k :: ms.keys).Nodup) :
      Writes (.obj ((k, j) :: ms)) ('\x7b' :: (gaps ++ (strChars alphabet k ++ ':' :: (gaps' ++ (cs ++ more)))))

/-- The items after the first, and the closing bracket. -/
inductive WritesItems : List Json → List Char → Prop where
  | done {gaps : List Char} (hgaps : Gaps gaps) : WritesItems [] (gaps ++ [']'])
  | next {j : Json} {js : List Json} {gaps cs more : List Char} (hgaps : Gaps gaps) (hitem : Writes j cs)
      (hmore : WritesItems js more) : WritesItems (j :: js) (',' :: (gaps ++ (cs ++ more)))

/-- The members after the first, and the closing brace. -/
inductive WritesMembers : Table String Json → List Char → Prop where
  | done {gaps : List Char} (hgaps : Gaps gaps) : WritesMembers [] (gaps ++ ['\x7d'])
  | next {k : String} {j : Json} {ms : Table String Json} {gaps gaps' cs more : List Char} (alphabet : Alphabet)
      (hgaps : Gaps gaps) (hgaps' : Gaps gaps') (hvalue : Writes j cs) (hmore : WritesMembers ms more) :
      WritesMembers ((k, j) :: ms) (',' :: (gaps ++ (strChars alphabet k ++ ':' :: (gaps' ++ (cs ++ more)))))

end

theorem isGap_iff {c : Char} : Token.isGap c = true ↔ c = ' ' ∨ c = '\t' ∨ c = '\n' ∨ c = '\r' := by
  simp [Token.isGap, or_assoc]

/-! ## Running the reader -/

namespace Reading

/-- What the reader comes to from here on a text. -/
def run? (r : Reading) (cs : List Char) : Option Reading := do
  let tokens ← Token.all? cs
  tokens.foldlM step r

variable {r : Reading} {cs rest gaps : List Char} {c : Char} {t : Token} {outer : List Frame}

theorem run?_nil (r : Reading) : r.run? [] = some r := by
  rw [run?, Token.all?]
  rfl

theorem run?_gap (h : Token.isGap c = true) (cs : List Char) : r.run? (c :: cs) = r.run? cs := by
  rw [run?, Token.all?, if_pos h]
  rfl

theorem run?_gaps (h : Gaps gaps) (cs : List Char) : r.run? (gaps ++ cs) = r.run? cs := by
  induction gaps with
  | nil => rfl
  | cons c gaps ih =>
    rw [List.cons_append, run?_gap (h c List.mem_cons_self)]
    exact ih fun x hx => h x (List.mem_cons_of_mem c hx)

theorem run?_token (hgap : Token.isGap c = false) (h : Token.read? (c :: cs) = some (t, rest)) :
    r.run? (c :: cs) = (r.step t).bind fun r => r.run? rest := by
  have hall : Token.all? (c :: cs) = (Token.all? rest).map (t :: ·) := by
    rw [Token.all?, if_neg (hgap ▸ Bool.false_ne_true)]
    split
    · rename_i hnone
      rw [h] at hnone
      cases hnone
    · rename_i t' rest' hsome
      rw [h] at hsome
      cases hsome
      rfl
  unfold run?
  rw [hall]
  -- a rest that is not all tokens fails either way, now or after this token
  cases Token.all? rest with
  | none => cases r.step t <;> rfl
  | some tokens => exact List.foldlM_cons (m := Option)

theorem run?_mark (hmark : c ∈ "[]\x7b\x7d,:".toList) (cs : List Char) :
    r.run? (c :: cs) = (r.step (.mark c)).bind fun r => r.run? cs := by
  have hall : "[]\x7b\x7d,:".toList.all (fun c => !Token.isGap c && c != '"') = true := by decide
  obtain ⟨hgap, hquote⟩ : Token.isGap c = false ∧ c ≠ '"' := by simpa using List.all_eq_true.1 hall c hmark
  refine run?_token hgap ?_
  rw [Token.read?, if_neg hquote, if_pos (List.contains_iff_mem.2 hmark)]

theorem run?_text (alphabet : Alphabet) (s : String) (cs : List Char) :
    r.run? (strChars alphabet s ++ cs) = (r.step (.scalar (.str s))).bind fun r => r.run? cs :=
  run?_token rfl (read?_strChars alphabet s cs)

/-- A value is due, inside these frames. -/
def Due (r : Reading) (outer : List Frame) : Prop := ∀ t, t ≠ .mark ']' → r.step t = startValue outer t

theorem due_value (outer : List Frame) : (value outer).Due outer := fun _ _ => rfl

theorem due_item (outer : List Frame) : (itemOrEnd outer).Due (.items [] :: outer) := by
  intro t ht
  unfold step
  split <;> simp_all

/-- A value without parts is complete at once. -/
theorem Due.scalar (h : r.Due outer) {v : Json} (hgap : Token.isGap c = false)
    (hread : Token.read? (c :: cs) = some (.scalar v, rest)) : r.run? (c :: cs) = (complete v outer).run? rest := by
  rw [run?_token hgap hread, h _ fun hsame => by cases hsame]
  rfl

end Reading

/-! ## Reading a layout -/

open Reading

theorem ends_nil : Ends [] := fun _ hc => by cases hc

theorem ends_cons {c : Char} (h : c ∈ ",]\x7d".toList) (cs : List Char) : Ends (c :: cs) := by
  have hall : ",]\x7d".toList.all (fun c => !c.isDigit && c != '.' && c != 'e' && c != 'E') = true := by decide
  rintro x ⟨⟩
  simpa [and_assoc] using List.all_eq_true.1 hall c h

theorem Gaps.ends {gaps rest : List Char} (h : Gaps gaps) (hrest : Ends rest) : Ends (gaps ++ rest) := by
  cases gaps with
  | nil => exact hrest
  | cons gap gaps =>
    rintro x ⟨⟩
    obtain rfl | rfl | rfl | rfl := isGap_iff.1 (h gap List.mem_cons_self) <;> decide

theorem WritesItems.ends {js : List Json} {cs : List Char} (h : WritesItems js cs) (rest : List Char) :
    Ends (cs ++ rest) := by
  cases h with
  | done hgaps =>
    rw [List.append_assoc]
    exact hgaps.ends (ends_cons (by decide) rest)
  | next => exact ends_cons (by decide) _

theorem WritesMembers.ends {ms : Table String Json} {cs : List Char} (h : WritesMembers ms cs) (rest : List Char) :
    Ends (cs ++ rest) := by
  cases h with
  | done hgaps =>
    rw [List.append_assoc]
    exact hgaps.ends (ends_cons (by decide) rest)
  | next => exact ends_cons (by decide) _

-- The recursion follows the layout; each `show` names what the reader waits for.
mutual

/-- The reader takes the layout of a value where one is due. -/
theorem run?_writes {j : Json} {cs rest : List Char} {r : Reading} {outer : List Frame} (h : Writes j cs)
    (hdue : r.Due outer) (hends : Ends rest) : r.run? (cs ++ rest) = (complete j outer).run? rest := by
  match h with
  | .null => exact hdue.scalar rfl rfl
  | .bool true => exact hdue.scalar rfl rfl
  | .bool false => exact hdue.scalar rfl rfl
  | .int n =>
    have hread := read?_decimal n hends
    obtain ⟨c, digits, hcons, hfirst⟩ := decimal_eq_cons n
    have hgap : Token.isGap c = false := by
      rw [← Bool.not_eq_true, isGap_iff]
      rintro (rfl | rfl | rfl | rfl) <;> exact absurd hfirst (by decide)
    rw [hcons] at hread ⊢
    exact hdue.scalar hgap hread
  | .str alphabet s => exact hdue.scalar rfl (read?_strChars alphabet s rest)
  | .noItems =>
    show r.run? ('[' :: ']' :: rest) = _
    rw [run?_mark (by decide), hdue _ (by simp)]
    exact run?_mark (r := .itemOrEnd outer) (by decide) rest
  | .noMembers =>
    show r.run? ('\x7b' :: '\x7d' :: rest) = _
    rw [run?_mark (by decide), hdue _ (by simp)]
    exact run?_mark (r := .keyOrEnd outer) (by decide) rest
  | .arr hgaps hfirst hmore =>
    rw [List.cons_append, run?_mark (by decide), hdue _ (by simp), List.append_assoc]
    show (itemOrEnd outer).run? _ = _
    rw [run?_gaps hgaps, List.append_assoc, run?_writes hfirst (due_item outer) (hmore.ends rest),
      run?_items hmore]
    rfl
  | .obj alphabet hgaps hgaps' hfirst hmore hkeys =>
    rw [List.cons_append, run?_mark (by decide), hdue _ (by simp), List.append_assoc]
    show (keyOrEnd outer).run? _ = _
    rw [run?_gaps hgaps, List.append_assoc, run?_text, List.cons_append]
    show (colon [] _ outer).run? _ = _
    rw [run?_mark (by decide), List.append_assoc]
    show (value (.member [] _ :: outer)).run? _ = _
    rw [run?_gaps hgaps', List.append_assoc, run?_writes hfirst (due_value _) (hmore.ends rest),
      run?_members hmore]
    · rfl
    · exact hkeys

theorem run?_items {v : Json} {before js : List Json} {cs rest : List Char} {outer : List Frame}
    (h : WritesItems js cs) : (complete v (.items before :: outer)).run? (cs ++ rest) =
      (complete (.arr ((v :: before).reverse ++ js)) outer).run? rest := by
  match h with
  | .done hgaps =>
    rw [List.append_assoc, run?_gaps hgaps, List.singleton_append, run?_mark (by decide), List.append_nil]
    rfl
  | .next hgaps hitem hmore =>
    rw [List.cons_append, run?_mark (by decide), List.append_assoc]
    show (value (.items (v :: before) :: outer)).run? _ = _
    rw [run?_gaps hgaps, List.append_assoc, run?_writes hitem (due_value _) (hmore.ends rest),
      run?_items hmore, List.reverse_cons, List.append_assoc, List.singleton_append]

theorem run?_members {k : String} {v : Json} {prior ms : Table String Json} {cs rest : List Char}
    {outer : List Frame} (h : WritesMembers ms cs) (hkeys : (prior.keys ++ k :: ms.keys).Nodup) :
    (complete v (.member prior k :: outer)).run? (cs ++ rest) =
      (complete (.obj (prior ++ (k, v) :: ms)) outer).run? rest := by
  -- the key is new, so the value goes behind the others
  have hset : prior.set k v = prior ++ [(k, v)] :=
    Table.set_of_not_mem v fun hk => (List.nodup_append.1 hkeys).2.2 k hk k List.mem_cons_self rfl
  match h with
  | .done hgaps =>
    rw [List.append_assoc, run?_gaps hgaps, List.singleton_append, run?_mark (by decide), ← hset]
    rfl
  | .next alphabet hgaps hgaps' hvalue hmore =>
    rw [List.cons_append, run?_mark (by decide), List.append_assoc]
    show (key (prior.set k v) outer).run? _ = _
    rw [hset, run?_gaps hgaps, List.append_assoc, run?_text, List.cons_append]
    show (colon (prior ++ [(k, v)]) _ outer).run? _ = _
    rw [run?_mark (by decide), List.append_assoc]
    show (value (.member (prior ++ [(k, v)]) _ :: outer)).run? _ = _
    rw [run?_gaps hgaps', List.append_assoc, run?_writes hvalue (due_value _) (hmore.ends rest),
      run?_members hmore, List.append_assoc, List.singleton_append]
    simpa [Table.keys] using hkeys

end

/-- However a value is laid out, and whatever gaps follow, it is read back. -/
theorem read?_writes {j : Json} {cs gaps : List Char} (h : Writes j cs) (hgaps : Gaps gaps) :
    read? (String.ofList (cs ++ gaps)) = some j := by
  have hrun : (value []).run? (cs ++ gaps) = some (complete j []) := by
    have hends : Ends gaps := List.append_nil gaps ▸ hgaps.ends ends_nil
    have hgone := run?_gaps (r := complete j []) hgaps []
    rw [List.append_nil, run?_nil] at hgone
    rw [run?_writes h (due_value []) hends, hgone]
  unfold run? at hrun
  rw [read?, String.toList_ofList]
  cases htokens : Token.all? (cs ++ gaps) with
  | none =>
    rw [htokens] at hrun
    cases hrun
  | some tokens =>
    rw [htokens] at hrun
    dsimp only [Option.bind_eq_bind, Option.bind_some] at hrun ⊢
    rw [hrun]
    rfl

theorem read?_empty : read? "" = none := by
  rw [read?, show "".toList = [] from rfl, Token.all?]
  rfl

/-! ## The layouts of the printer -/

theorem gaps_nil : Gaps [] := fun _ hc => by cases hc

theorem gaps_blank : Gaps [' '] := fun c hc => by
  rw [List.mem_singleton.1 hc]
  rfl

theorem gaps_newline (level : Nat) : Gaps (newline level) := by
  intro c hc
  rcases List.mem_cons.1 hc with rfl | hc
  · rfl
  · rw [List.eq_of_mem_replicate hc]
    rfl

mutual

/-- A value on one line. -/
theorem writes_lineChars (alphabet : Alphabet) {j : Json} (h : Plain j) : Writes j (lineChars alphabet j) := by
  match j, h with
  | .null, _ => exact .null
  | .bool b, _ => exact .bool b
  | .int n, _ => exact .int n
  | .str s, _ => exact .str alphabet s
  | .arr [], _ => exact .noItems
  | .obj [], _ => exact .noMembers
  | .arr (j :: js), .arr hitems =>
    have hfirst := writes_lineChars alphabet (hitems j List.mem_cons_self)
    have hmore := writes_moreItems alphabet fun i hi => hitems i (List.mem_cons_of_mem j hi)
    simpa [lineChars] using Writes.arr gaps_nil hfirst hmore
  | .obj ((k, j) :: ms), .obj hkeys hvalues =>
    have hfirst := writes_lineChars alphabet (hvalues (k, j) List.mem_cons_self)
    have hmore := writes_moreMembers alphabet fun m hm => hvalues m (List.mem_cons_of_mem (k, j) hm)
    simpa [lineChars] using Writes.obj alphabet gaps_nil gaps_blank hfirst hmore hkeys

theorem writes_moreItems (alphabet : Alphabet) {js : List Json} (h : ∀ j ∈ js, Plain j) :
    WritesItems js (moreItems alphabet js) := by
  match js, h with
  | [], _ => exact .done gaps_nil
  | j :: js, h =>
    have hitem := writes_lineChars alphabet (h j List.mem_cons_self)
    have hmore := writes_moreItems alphabet fun i hi => h i (List.mem_cons_of_mem j hi)
    simpa [moreItems] using WritesItems.next gaps_blank hitem hmore

theorem writes_moreMembers (alphabet : Alphabet) {ms : Table String Json} (h : ∀ m ∈ ms, Plain m.2) :
    WritesMembers ms (moreMembers alphabet ms) := by
  match ms, h with
  | [], _ => exact .done gaps_nil
  | (k, j) :: ms, h =>
    have hvalue := writes_lineChars alphabet (h (k, j) List.mem_cons_self)
    have hmore := writes_moreMembers alphabet fun m hm => h m (List.mem_cons_of_mem (k, j) hm)
    simpa [moreMembers] using WritesMembers.next alphabet gaps_blank gaps_blank hvalue hmore

end

mutual

/-- A value spread over lines. -/
theorem writes_pageChars (alphabet : Alphabet) (level : Nat) {j : Json} (h : Plain j) :
    Writes j (pageChars alphabet level j) := by
  match j, h with
  | .null, h | .bool _, h | .int _, h | .str _, h | .arr [], h | .obj [], h => exact writes_lineChars alphabet h
  | .arr (j :: js), .arr hitems =>
    have hfirst := writes_pageChars alphabet (level + 1) (hitems j List.mem_cons_self)
    have hmore := writes_pageItems alphabet level fun i hi => hitems i (List.mem_cons_of_mem j hi)
    simpa [pageChars] using Writes.arr (gaps_newline (level + 1)) hfirst hmore
  | .obj ((k, j) :: ms), .obj hkeys hvalues =>
    have hfirst := writes_pageChars alphabet (level + 1) (hvalues (k, j) List.mem_cons_self)
    have hmore := writes_pageMembers alphabet level fun m hm => hvalues m (List.mem_cons_of_mem (k, j) hm)
    simpa [pageChars] using Writes.obj alphabet (gaps_newline (level + 1)) gaps_blank hfirst hmore hkeys

theorem writes_pageItems (alphabet : Alphabet) (level : Nat) {js : List Json} (h : ∀ j ∈ js, Plain j) :
    WritesItems js (pageItems alphabet level js) := by
  match js, h with
  | [], _ => exact .done (gaps_newline level)
  | j :: js, h =>
    have hitem := writes_pageChars alphabet (level + 1) (h j List.mem_cons_self)
    have hmore := writes_pageItems alphabet level fun i hi => h i (List.mem_cons_of_mem j hi)
    simpa [pageItems] using WritesItems.next (gaps_newline (level + 1)) hitem hmore

theorem writes_pageMembers (alphabet : Alphabet) (level : Nat) {ms : Table String Json} (h : ∀ m ∈ ms, Plain m.2) :
    WritesMembers ms (pageMembers alphabet level ms) := by
  match ms, h with
  | [], _ => exact .done (gaps_newline level)
  | (k, j) :: ms, h =>
    have hvalue := writes_pageChars alphabet (level + 1) (h (k, j) List.mem_cons_self)
    have hmore := writes_pageMembers alphabet level fun m hm => h m (List.mem_cons_of_mem (k, j) hm)
    simpa [pageMembers] using WritesMembers.next alphabet (gaps_newline (level + 1)) gaps_blank hvalue hmore

end

/-- A page and the line break after it are read as the value again. -/
theorem read?_page (alphabet : Alphabet) {j : Json} (h : Plain j) : read? (j.page alphabet ++ "\n") = some j := by
  have hread := read?_writes (writes_pageChars alphabet 0 h) (gaps_newline 0)
  rwa [String.ofList_append] at hread

end StateTraces.Json
