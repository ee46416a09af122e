/-
Binary floating point with 53 bits of precision, as exact values `m · 2^q`. A decimal is rounded to
the nearest value, ties to the even significand; a value is written with the fewest decimal digits
that read back as the same value.
-/

namespace StateTraces

/-- A floating-point value: a sign and `significand · 2^exponent`, an infinity, or not a number. -/
inductive Binary64 where
  | finite (negative : Bool) (significand : Nat) (exponent : Int)
  | infinite (negative : Bool)
  | notANumber
  deriving DecidableEq, Repr

namespace Binary64

/-- The quotient rounded to the nearest natural number, ties to even. -/
def roundDiv (num den : Nat) : Nat :=
  let q := num / den
  let r := num % den
  if 2 * r < den then q else if den < 2 * r then q + 1 else if q % 2 = 0 then q else q + 1

/-- The least significand of a value that is not subnormal. -/
def leastNormal : Nat := 0x10000000000000

def tenTo (n : Nat) : Nat := Nat.pow 10 n

/-- The nearest value to a positive quotient. -/
def ofQuotient (negative : Bool) (num den : Nat) : Binary64 :=
  let guess : Int := (Nat.log2 num : Int) - Nat.log2 den - 52
  let scaled (q : Int) : Nat × Nat :=
    if q ≥ 0 then (num, den <<< q.toNat) else (num <<< (-q).toNat, den)
  let tooLarge := (scaled guess).1 < (scaled guess).2 * leastNormal
  let q := max (-1074) (if tooLarge then guess - 1 else guess)
  let m := roundDiv (scaled q).1 (scaled q).2
  let (m, q) := if m = 2 * leastNormal then (leastNormal, q + 1) else (m, q)
  if q > 971 then .infinite negative else .finite negative m q

/-- The nearest value to `digits · 10^exponent`. -/
def ofDecimal (negative : Bool) (digits : Nat) (exponent : Int) : Binary64 :=
  let magnitude : Int := (Nat.toDigits 10 digits).length + exponent
  if digits = 0 ∨ magnitude < -330 then .finite negative 0 (-1074)
  else if magnitude > 310 then .infinite negative
  else if exponent ≥ 0 then ofQuotient negative (digits * tenTo exponent.toNat) 1
  else ofQuotient negative digits (tenTo (-exponent).toNat)

/-- The value without its fractional part, unless it is infinite or not a number. -/
def truncate? : Binary64 → Option Int
  | .finite negative m q =>
    let n := if q ≥ 0 then m <<< q.toNat else m >>> (-q).toNat
    some (if negative then -(n : Int) else n)
  | _ => none

/-- Whether the value is exactly this integer. -/
def isInt (x : Binary64) (n : Int) : Bool :=
  match x with
  | .finite negative m q =>
    let (a, b) := if q ≥ 0 then (m <<< q.toNat, 1) else (m, 1 <<< (-q).toNat)
    (if negative then -(a : Int) else a) == n * b
  | _ => false

/-! ## Shortest digits -/

/-- The decimal grid point with `k` digits nearest to the value, if one rounds to the value: with
the value, its rounding interval and the grid all multiplied by `scale`. -/
def nearestOnGrid (value lower upper unit : Nat) (closed : Bool) : Option Nat :=
  let inside (p : Nat) := if closed then lower ≤ p ∧ p ≤ upper else lower < p ∧ p < upper
  let below := value / unit
  let lowIn := inside (below * unit)
  let highIn := inside ((below + 1) * unit)
  let lowGap := value - below * unit
  let highGap := (below + 1) * unit - value
  if lowIn ∧ (¬ highIn ∨ lowGap < highGap ∨ (lowGap = highGap ∧ below % 2 = 0)) then some below
  else if highIn then some (below + 1)
  else none

/-- The fewest digits that read back as the positive value `m · 2^q`, and their exponent of ten. -/
def shortest (m : Nat) (q : Int) : Nat × Int :=
  let up := 1 <<< (q - 2).toNat
  let down := 1 <<< (2 - q).toNat
  let leading : Int := (Nat.toDigits 10 (4 * m * up * tenTo 400 / down)).length - 401
  let half := if m = leastNormal ∧ q > -1074 then 1 else 2
  let attempt (k : Nat) : Option (Nat × Int) :=
    let e := leading - k + 1
    let quarter := up * tenTo (-e).toNat
    let unit := down * tenTo e.toNat
    (nearestOnGrid (4 * m * quarter) ((4 * m - half) * quarter) ((4 * m + 2) * quarter) unit
      (m % 2 == 0)).map fun d => (d, e)
  ((List.range' 1 17).findSome? attempt).getD (m, q)

/-- The digits before and after the point, or with an exponent of ten when the value is below
`10^-4` or from `10^16` up. -/
def text : Binary64 → String
  | .notANumber => "nan"
  | .infinite negative => if negative then "-inf" else "inf"
  | .finite negative m q =>
    let sign := if negative then "-" else ""
    if m = 0 then sign ++ "0.0" else
      let (d, e) := shortest m q
      let ds := Nat.toDigits 10 d
      let ten : Int := ds.length - 1 + e
      let ds := (ds.reverse.dropWhile (· == '0')).reverse
      let body : List Char :=
        if -4 ≤ ten ∧ ten < 0 then
          '0' :: '.' :: List.replicate (-ten - 1).toNat '0' ++ ds
        else if 0 ≤ ten ∧ ten < 16 then
          let whole := ds.take (ten + 1).toNat
          let zeros := List.replicate ((ten + 1).toNat - whole.length) '0'
          let fraction := ds.drop (ten + 1).toNat
          whole ++ zeros ++ '.' :: (if fraction.isEmpty then ['0'] else fraction)
        else
          let tail := ds.drop 1
          let width := Nat.toDigits 10 ten.natAbs
          ds.take 1 ++ (if tail.isEmpty then [] else '.' :: tail) ++ 'e' ::
            (if ten < 0 then '-' else '+') :: (if width.length < 2 then '0' :: width else width)
      sign ++ String.ofList body

end Binary64

end StateTraces
