import StateTraces.Text.Blank

/-
Integers as people write them: blanks around, an optional sign, decimal digits of any script, and
single underscores between digits.
-/

namespace StateTraces.Text

/-- The code points of the zeros; the digits one to nine of a script follow its zero. -/
def zeroDigits : List Nat := [
    48, 1632, 1776, 1984, 2406, 2534, 2662, 2790, 2918, 3046, 3174, 3302, 3430, 3558, 3664, 3792,
    3872, 4160, 4240, 6112, 6160, 6470, 6608, 6784, 6800, 6992, 7088, 7232, 7248, 42528, 43216,
    43264, 43472, 43504, 43600, 44016, 65296, 66720, 68912, 69734, 69872, 69942, 70096, 70384,
    70736, 70864, 71248, 71360, 71472, 71904, 72016, 72784, 73040, 73120, 92768, 92864, 93008,
    120782, 120792, 120802, 120812, 120822, 123200, 123632, 125264, 130032]

/-- The value of a decimal digit of any script. -/
def digitValue? (c : Char) : Option Nat :=
  (zeroDigits.find? fun z => z ≤ c.toNat && c.toNat < z + 10).map (c.toNat - ·)

/-- The most digits that an integer may have. -/
def mostDigits : Nat := 4300

/-- Digits with single underscores between them, after the digits read so far (`acc`, of which
there are `count`). A text of too many digits is refused. -/
def readDigits (acc count : Nat) : List Char → Option Nat
  | [] => if count ≤ mostDigits then some acc else none
  | '_' :: c :: cs => (digitValue? c).bind fun d => readDigits (acc * 10 + d) (count + 1) cs
  | c :: cs => (digitValue? c).bind fun d => readDigits (acc * 10 + d) (count + 1) cs

/-- An unsigned integer: it starts with a digit. -/
def readUnsigned? : List Char → Option Nat
  | [] => none
  | c :: cs => (digitValue? c).bind fun d => readDigits d 1 cs

/-- A blank that may stand around an integer; the information separators may not. -/
def isPadding (c : Char) : Bool := isBlank c && !(28 ≤ c.toNat && c.toNat ≤ 31)

/-- The text without the blanks that may stand around an integer. -/
def unpadded (cs : List Char) : List Char :=
  ((cs.dropWhile isPadding).reverse.dropWhile isPadding).reverse

/-- The integer that the text writes, if it writes one. -/
def readInteger? (s : String) : Option Int :=
  match unpadded s.toList with
  | '-' :: cs => (readUnsigned? cs).map fun n => -(n : Int)
  | '+' :: cs => (readUnsigned? cs).map Int.ofNat
  | cs => (readUnsigned? cs).map Int.ofNat

end StateTraces.Text
