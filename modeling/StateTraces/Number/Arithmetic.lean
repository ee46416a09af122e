import StateTraces.Number.Binary64

/-
Sums and products of floating-point values: exact, and then rounded to the nearest value, ties to
the even significand. A zero keeps the sign that the operands agree on.
-/

namespace StateTraces.Binary64

/-- The exact integer `n · 2^q`, rounded; a zero gets the stated sign. -/
def ofScaled (negativeZero : Bool) (n q : Int) : Binary64 :=
  if n = 0 then .finite negativeZero 0 (-1074)
  else ofQuotient (n < 0) (n.natAbs <<< q.toNat) (1 <<< (-q).toNat)

/-- The integer, rounded. -/
def ofInt (n : Int) : Binary64 := ofScaled false n 0

/-- A significand with its sign, in units of `2^shift` less. -/
def signed (negative : Bool) (significand shift : Nat) : Int :=
  let n : Int := significand <<< shift
  if negative then -n else n

def negate : Binary64 → Binary64
  | .finite negative m q => .finite (!negative) m q
  | .infinite negative => .infinite (!negative)
  | .notANumber => .notANumber

def add : Binary64 → Binary64 → Binary64
  | .notANumber, _ | _, .notANumber => .notANumber
  | .infinite a, .infinite b => if a = b then .infinite a else .notANumber
  | .infinite a, .finite .. | .finite .., .infinite a => .infinite a
  | .finite a m q, .finite b n r =>
    let low := min q r
    ofScaled (a && b) (signed a m (q - low).toNat + signed b n (r - low).toNat) low

def mul : Binary64 → Binary64 → Binary64
  | .notANumber, _ | _, .notANumber => .notANumber
  | .infinite a, .infinite b => .infinite (a != b)
  | .infinite a, .finite b m _ | .finite b m _, .infinite a =>
    if m = 0 then .notANumber else .infinite (a != b)
  | .finite a m q, .finite b n r => ofScaled (a != b) (signed a m 0 * signed b n 0) (q + r)

end StateTraces.Binary64
