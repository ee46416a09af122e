import StateTraces.Number.Binary64
import StateTraces.Text.Integer
import StateTraces.Text.Quoted

/-
Texts that have to be numbers: integers in a stated base, and reals. Blanks may stand around a
number and a sign before it; digits may come from any script. Decimal integers have a limit on their
length, also when they are written.
-/

namespace StateTraces.Text

/-! ## Writing -/

/-- An integer in decimal digits. -/
def decimal (n : Int) : List Char :=
  if n < 0 then '-' :: Nat.toDigits 10 n.natAbs else Nat.toDigits 10 n.natAbs

/-- Whether an integer has no more digits than may be written. -/
def isShort (n : Int) : Bool := n.natAbs < Binary64.tenTo mostDigits

/-- Writes an integer, unless it is too long. -/
def writeInteger? (n : Int) : Option String :=
  if isShort n then some (String.ofList (decimal n)) else none

theorem writeInteger?_of_isShort {n : Int} (h : isShort n = true) :
    writeInteger? n = some (String.ofList (decimal n)) := if_pos h

theorem writeInteger?_of_not_isShort {n : Int} (h : isShort n = false) : writeInteger? n = none :=
  if_neg (Bool.not_eq_true _ ▸ h)

theorem isSome_writeInteger? (n : Int) : (writeInteger? n).isSome = isShort n := by
  cases h : isShort n with
  | true => rw [writeInteger?_of_isShort h, Option.isSome_some]
  | false => rw [writeInteger?_of_not_isShort h, Option.isSome_none]

/-- What is said about an integer that is too long to be written. -/
def tooLongToWrite : String :=
  s!"Exceeds the limit ({mostDigits} digits) for integer string conversion; " ++
    "use sys.set_int_max_str_digits() to increase the limit"

/-! ## Reading -/

/-- Why a text is no number: it is no integer in a base, it is longer than integers may be, or it is
no real. -/
inductive Misread where
  | integer (base : Nat) (text : String)
  | length (digits : Nat)
  | real (text : String)
  deriving DecidableEq, Repr

/-- What is wrong, in words. Of a text that is no integer only the first 200 characters are
shown. -/
def Misread.message : Misread → String
  | .integer base s =>
    let shown := String.ofList ((quoted s).toList.take 200)
    s!"invalid literal for int() with base {base}: {shown}"
  | .length digits =>
    s!"Exceeds the limit ({mostDigits} digits) for integer string conversion: " ++
      s!"value has {digits} digits; use sys.set_int_max_str_digits() to increase the limit"
  | .real s => s!"could not convert string to float: {quoted s}"

/-- A text without its sign, and whether the sign is a minus. -/
def cutSign : List Char → Bool × List Char
  | '-' :: cs => (true, cs)
  | '+' :: cs => (false, cs)
  | cs => (false, cs)

/-- The value of a digit in a base; letters stand for the digits from ten up. -/
def digitIn? (base : Nat) (c : Char) : Option Nat :=
  let letter := if c.isAlpha then some (c.toLower.toNat - 87) else none
  ((digitValue? c).or letter).filter (· < base)

/-- The number that digits in a base write. -/
def digitsValue (base : Nat) (cs : List Char) : Nat :=
  cs.foldl (fun n c => n * base + (digitIn? base c).getD 0) 0

/-- Digits without the mark of their base in front. -/
def withoutBaseMark (base : Nat) : List Char → List Char
  | '0' :: c :: cs =>
    if (base, c.toLower) ∈ [(2, 'b'), (8, 'o'), (16, 'x')] then cs else '0' :: c :: cs
  | cs => cs

/-- The integer that a text writes in a base. Only decimal ones have a limit on their length. -/
def readIn (base : Nat) (s : String) : Except Misread Int :=
  let (negative, body) := cutSign (unpadded s.toList)
  let body := withoutBaseMark base body
  let digits := body.takeWhile fun c => (digitIn? base c).isSome
  if base = 10 ∧ mostDigits < digits.length then .error (.length digits.length)
  else if digits = [] ∨ digits.length < body.length then .error (.integer base s)
  else
    let n : Int := digitsValue base digits
    .ok (if negative then -n else n)

/-- An exponent of ten, or nothing at all. -/
def exponent? : List Char → Option Int
  | [] => some 0
  | e :: cs =>
    let (negative, digits) := cutSign cs
    if e.toLower = 'e' ∧ digits ≠ [] ∧ digits.all fun c => (digitValue? c).isSome then
      let n : Int := digitsValue 10 digits
      some (if negative then -n else n)
    else none

/-- The real that a text writes: digits with a point and an exponent, or a word. -/
def readReal (s : String) : Except Misread Binary64 :=
  let (negative, body) := cutSign (unpadded s.toList)
  let word := body.map Char.toLower
  if word = "inf".toList ∨ word = "infinity".toList then .ok (.infinite negative)
  else if word = "nan".toList then .ok .notANumber
  else
    let isDigit (c : Char) := (digitValue? c).isSome
    let whole := body.takeWhile isDigit
    let rest := body.drop whole.length
    let fraction := if rest.head? = some '.' then (rest.drop 1).takeWhile isDigit else []
    let rest := if rest.head? = some '.' then rest.drop (fraction.length + 1) else rest
    match exponent? rest with
    | some e =>
      if whole = [] ∧ fraction = [] then .error (.real s)
      else .ok (.ofDecimal negative (digitsValue 10 (whole ++ fraction)) (e - fraction.length))
    | none => .error (.real s)

end StateTraces.Text
