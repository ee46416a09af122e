import StateTraces.Json

/-
The tokens of a JSON text: marks, and scalar values with their escapes resolved. Blanks stand
between tokens and mean nothing.
-/

namespace StateTraces.Json

/-- A mark of structure, or a value that has no parts. -/
inductive Token where
  | mark (c : Char)
  | scalar (value : Json)
  deriving BEq

namespace Token

/-! ## Texts -/

/-- The characters up to the closing quote, escapes left as they are, and what follows it. A text
holds no control character. -/
def cutBody : List Char → Option (List Char × List Char)
  | [] => none
  | '"' :: cs => some ([], cs)
  | '\\' :: c :: cs => (cutBody cs).map fun r => ('\\' :: c :: r.1, r.2)
  | c :: cs => if c.toNat < 0x20 then none else (cutBody cs).map fun r => (c :: r.1, r.2)

/-- The value of a hexadecimal digit. -/
def hexValue? (c : Char) : Option Nat :=
  if '0' ≤ c ∧ c ≤ '9' then some (c.toNat - 48)
  else if 'a' ≤ c ∧ c ≤ 'f' then some (c.toNat - 87)
  else if 'A' ≤ c ∧ c ≤ 'F' then some (c.toNat - 55)
  else none

/-- The number that four hexadecimal digits write. -/
def unit? (a b c d : Char) : Option Nat := do
  pure ((((← hexValue? a) * 16 + (← hexValue? b)) * 16 + (← hexValue? c)) * 16 + (← hexValue? d))

/-- The character that a letter after a backslash stands for. -/
def escaped? : Char → Option Char
  | '"' => some '"'
  | '\\' => some '\\'
  | '/' => some '/'
  | 'b' => some '\x08'
  | 'f' => some '\x0c'
  | 'n' => some '\n'
  | 'r' => some '\r'
  | 't' => some '\t'
  | _ => none

/-- Resolves the escapes of a text. A high UTF-16 unit waits (`high`) for its low unit. -/
def resolve (high : Option Nat) : List Char → Option (List Char)
  | [] => if high.isNone then some [] else none
  | '\\' :: 'u' :: a :: b :: c :: d :: cs => do
    let n ← unit? a b c d
    match high with
    | some h =>
      if 0xDC00 ≤ n ∧ n < 0xE000 then
        (resolve none cs).map (Char.ofNat (0x10000 + (h - 0xD800) * 0x400 + (n - 0xDC00)) :: ·)
      else none
    | none =>
      if 0xD800 ≤ n ∧ n < 0xDC00 then resolve (some n) cs
      else if 0xDC00 ≤ n ∧ n < 0xE000 then none
      else (resolve none cs).map (Char.ofNat n :: ·)
  | '\\' :: c :: cs =>
    if high.isNone then (escaped? c).bind fun e => (resolve none cs).map (e :: ·) else none
  | c :: cs => if high.isNone then (resolve none cs).map (c :: ·) else none

/-! ## Numbers -/

/-- The digits at the start, and what follows them. -/
def digits (cs : List Char) : List Char × List Char :=
  (cs.takeWhile Char.isDigit, cs.dropWhile Char.isDigit)

/-- The number that decimal digits write. -/
def number (ds : List Char) : Nat := ds.foldl (fun n d => n * 10 + (d.toNat - 48)) 0

/-- Whether a minus stands first, and what follows the sign if there is one. -/
def sign : List Char → Bool × List Char
  | '-' :: cs => (true, cs)
  | '+' :: cs => (false, cs)
  | cs => (false, cs)

/-- The digits of an integer without leading zeros. -/
def wholePart : List Char → Option (List Char × List Char)
  | '0' :: cs => some (['0'], cs)
  | cs => if (digits cs).1.isEmpty then none else some (digits cs)

/-- The digits after a point, if there are any. -/
def fractionPart : List Char → List Char × List Char
  | '.' :: cs => if (digits cs).1.isEmpty then ([], '.' :: cs) else digits cs
  | cs => ([], cs)

/-- The exponent of ten, if there is one. -/
def exponentPart : List Char → Option Int × List Char
  | [] => (none, [])
  | e :: cs =>
    let (negative, rest) := sign cs
    let (ds, after) := digits rest
    if (e == 'e' || e == 'E') && !ds.isEmpty then
      (some (if negative then -(number ds : Int) else number ds), after)
    else (none, e :: cs)

/-- A number: an integer unless it has a fraction or an exponent. -/
def readNumber : List Char → Option (Json × List Char)
  | [] => none
  | c :: cs => do
    let negative := c == '-'
    let (whole, rest) ← wholePart (if negative then cs else c :: cs)
    let (fraction, rest) := fractionPart rest
    let (exponent, rest) := exponentPart rest
    if fraction.isEmpty && exponent.isNone then
      let n : Int := number whole
      pure (.int (if negative then -n else n), rest)
    else
      let scale := exponent.getD 0 - fraction.length
      pure (.real (Binary64.ofDecimal negative (number (whole ++ fraction)) scale), rest)

/-! ## Lexing -/

/-- The values that are written as a word. -/
def words : List (List Char × Json) :=
  [("null".toList, .null), ("true".toList, .bool true), ("false".toList, .bool false),
    ("NaN".toList, .real .notANumber), ("Infinity".toList, .real (.infinite false)),
    ("-Infinity".toList, .real (.infinite true))]

/-- What follows a word at the start of the text. -/
def after? : List Char → List Char → Option (List Char)
  | [], cs => some cs
  | _ :: _, [] => none
  | w :: ws, c :: cs => if w = c then after? ws cs else none

/-- The token at the start of the text, and what follows it. -/
def read? : List Char → Option (Token × List Char)
  | [] => none
  | c :: cs =>
    if c = '"' then do
      let (body, rest) ← cutBody cs
      let s ← resolve none body
      pure (.scalar (.str (String.ofList s)), rest)
    else if "[]\x7b\x7d,:".toList.contains c then some (.mark c, cs)
    else match words.find? fun w => (after? w.1 (c :: cs)).isSome with
      | some w => some (.scalar w.2, cs.drop (w.1.length - 1))
      | none => (readNumber (c :: cs)).map fun r => (.scalar r.1, r.2)

theorem cutBody_length {cs body rest : List Char} (h : cutBody cs = some (body, rest)) :
    rest.length < cs.length := by
  fun_induction cutBody cs generalizing body with
  | case1 => simp at h
  | case2 cs => simp at h; simp [h.2]
  | case3 c cs ih =>
    obtain ⟨⟨b, r⟩, hr, e⟩ := Option.map_eq_some_iff.1 h
    simp only [Prod.mk.injEq] at e
    have := ih (e.2 ▸ hr)
    simp only [List.length_cons]; omega
  | case4 => simp at h
  | case5 c cs _ _ _ ih =>
    obtain ⟨⟨b, r⟩, hr, e⟩ := Option.map_eq_some_iff.1 h
    simp only [Prod.mk.injEq] at e
    have := ih (e.2 ▸ hr)
    simp only [List.length_cons]; omega

theorem length_dropWhile_le (p : Char → Bool) (cs : List Char) :
    (cs.dropWhile p).length ≤ cs.length := (List.dropWhile_suffix p).sublist.length_le

theorem wholePart_length {cs ds rest : List Char} (h : wholePart cs = some (ds, rest)) :
    rest.length < cs.length := by
  unfold wholePart at h
  split at h
  · simp at h; simp [h.2]
  · split at h
    · simp at h
    · rename_i hd
      simp only [digits, Option.some.injEq, Prod.mk.injEq] at h hd
      have e := congrArg List.length (List.takeWhile_append_dropWhile (p := Char.isDigit) (l := cs))
      rw [List.length_append, h.2] at e
      have : 0 < (cs.takeWhile Char.isDigit).length := by
        cases hds : cs.takeWhile Char.isDigit with
        | nil => exact absurd (by rw [hds]; rfl) hd
        | cons => exact Nat.succ_pos _
      omega

theorem fractionPart_length (cs : List Char) : (fractionPart cs).2.length ≤ cs.length := by
  unfold fractionPart
  split
  · split
    · simp
    · exact Nat.le_succ_of_le (length_dropWhile_le Char.isDigit _)
  · simp

theorem sign_length (cs : List Char) : (sign cs).2.length ≤ cs.length := by
  unfold sign
  split <;> simp

theorem exponentPart_length (cs : List Char) : (exponentPart cs).2.length ≤ cs.length := by
  unfold exponentPart
  split
  · simp
  · rename_i cs
    dsimp only [digits]
    split
    · exact Nat.le_succ_of_le (Nat.le_trans (length_dropWhile_le Char.isDigit _) (sign_length cs))
    · simp

theorem readNumber_length {cs rest : List Char} {j : Json}
    (h : readNumber cs = some (j, rest)) : rest.length < cs.length := by
  cases cs with
  | nil => simp [readNumber] at h
  | cons c cs =>
    simp only [readNumber, Option.bind_eq_bind, Option.bind_eq_some_iff] at h
    obtain ⟨⟨whole, r⟩, hw, h⟩ := h
    have h₁ := wholePart_length hw
    have h₂ := fractionPart_length r
    have h₃ := exponentPart_length (fractionPart r).2
    have h₄ : (if (c == '-') = true then cs else c :: cs).length ≤ cs.length + 1 := by
      split <;> simp
    dsimp only at h
    split at h <;> simp only [Option.pure_def, Option.some.injEq, Prod.mk.injEq] at h <;>
      rw [← h.2, List.length_cons] <;> omega

theorem read?_length {cs rest : List Char} {t : Token} (h : read? cs = some (t, rest)) :
    rest.length < cs.length := by
  cases cs with
  | nil => simp [read?] at h
  | cons c cs =>
    rw [read?] at h
    split at h
    · simp only [Option.bind_eq_bind, Option.bind_eq_some_iff] at h
      obtain ⟨⟨body, r⟩, hb, s, -, h⟩ := h
      have := cutBody_length hb
      simp only [Option.pure_def, Option.some.injEq, Prod.mk.injEq] at h
      rw [← h.2, List.length_cons]; omega
    · split at h
      · simp only [Option.some.injEq, Prod.mk.injEq] at h
        simp [h.2]
      · split at h
        · simp only [Option.some.injEq, Prod.mk.injEq] at h
          rw [← h.2, List.length_drop, List.length_cons]; omega
        · obtain ⟨⟨j, r⟩, hr, e⟩ := Option.map_eq_some_iff.1 h
          simp only [Prod.mk.injEq] at e
          exact e.2 ▸ readNumber_length hr

/-- A blank between tokens. -/
def isGap (c : Char) : Bool := c == ' ' || c == '\t' || c == '\n' || c == '\r'

/-- The tokens of a text, unless some of it is no token. -/
def all? : List Char → Option (List Token)
  | [] => some []
  | c :: cs =>
    if isGap c then all? cs
    else match _h : read? (c :: cs) with
      | none => none
      | some (t, rest) => (all? rest).map (t :: ·)
termination_by cs => cs.length
decreasing_by
  · exact Nat.lt_succ_self _
  · exact read?_length _h

end Token

end StateTraces.Json
