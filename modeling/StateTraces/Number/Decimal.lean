import StateTraces.Number.Binary64

/-
Decimal texts with a stated number of digits: with so many digits after the point, with an exponent
of ten, or in the shorter of both ways with so many digits in all. The exact value is rounded to the
nearest decimal, ties to the even digit.
-/

namespace StateTraces.Binary64

/-- How a value is written. In the general way zeros at the end are dropped. -/
inductive Style where
  | fixed
  | scientific
  | general
  deriving DecidableEq, Repr

/-- The magnitude of a finite value as a quotient. -/
def quotient (m : Nat) (q : Int) : Nat × Nat := (m <<< q.toNat, 1 <<< (-q).toNat)

/-- The digits of a number, filled up with zeros in front. -/
def digitsOf (width n : Nat) : List Char :=
  let ds := Nat.toDigits 10 n
  List.replicate (width - ds.length) '0' ++ ds

/-- The nearest decimal with `places` digits after the point, as one sequence of digits. -/
def fixedDigits (num den places : Nat) : List Char :=
  digitsOf (places + 1) (roundDiv (num * tenTo places) den)

/-- The exponent of ten of the first digit of a positive quotient that is above `10^-400`. -/
def leadingExponent (num den : Nat) : Int :=
  (Nat.toDigits 10 (num * tenTo 400 / den)).length - 401

/-- The nearest decimal with `count` digits in all, and the exponent of ten of the first one. -/
def leadingDigits (num den count : Nat) : List Char × Int :=
  if num = 0 then (List.replicate count '0', 0)
  else
    let e := leadingExponent num den
    let shift : Int := count - 1 - e
    let ds := Nat.toDigits 10 (roundDiv (num * tenTo shift.toNat) (den * tenTo (-shift).toNat))
    if count < ds.length then (ds.take count, e + 1) else (ds, e)

/-- Digits before and after the point, which is left out where it would stand last unless it is
asked for. -/
def pointed (whole fraction : List Char) (always : Bool) : List Char :=
  whole ++ if fraction.isEmpty && !always then [] else '.' :: fraction

/-- An exponent of ten, with its sign and two digits at least. -/
def exponentText (e : Int) : List Char :=
  'e' :: (if e < 0 then '-' else '+') :: digitsOf 2 e.natAbs

def withoutZeros (ds : List Char) : List Char := (ds.reverse.dropWhile (· == '0')).reverse

/-- A magnitude as text. With `full` the point is always written and no zero is dropped. -/
def magnitudeText (style : Style) (precision : Nat) (full : Bool) (num den : Nat) : List Char :=
  match style with
  | .fixed =>
    let ds := fixedDigits num den precision
    pointed (ds.take (ds.length - precision)) (ds.drop (ds.length - precision)) full
  | .scientific =>
    let (ds, e) := leadingDigits num den (precision + 1)
    pointed (ds.take 1) (ds.drop 1) full ++ exponentText e
  | .general =>
    let count := max 1 precision
    let (ds, e) := leadingDigits num den count
    let kept (fraction : List Char) := if full then fraction else withoutZeros fraction
    if e < -4 ∨ (count : Int) ≤ e then
      pointed (ds.take 1) (kept (ds.drop 1)) full ++ exponentText e
    else if e < 0 then
      pointed ['0'] (kept (List.replicate (-e - 1).toNat '0' ++ ds)) full
    else pointed (ds.take (e + 1).toNat) (kept (ds.drop (e + 1).toNat)) full

/-- The value without its sign, and whether it has one. -/
def rounded (x : Binary64) (style : Style) (precision : Nat) (full : Bool) : Bool × List Char :=
  match x with
  | .notANumber => (false, ['n', 'a', 'n'])
  | .infinite negative => (negative, ['i', 'n', 'f'])
  | .finite negative m q =>
    let (num, den) := quotient m q
    (negative, magnitudeText style precision full num den)

/-- The value nearest to an integer, unless that is too large. -/
def ofInt? (n : Int) : Option Binary64 :=
  if n = 0 then some (.finite false 0 (-1074))
  else match ofQuotient (n < 0) n.natAbs 1 with
    | .infinite _ => none
    | x => some x

end StateTraces.Binary64
