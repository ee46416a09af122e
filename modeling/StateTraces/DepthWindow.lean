import StateTraces.Text.Numeral

/-
Depth windows: the inclusive range of depths at which results are reported. Bounds come from
outside as integers. A negative bound is refused, the minimum first; bounds in reverse order are
refused when the window is stated and put in order when it is made from bounds. A refusal tells the
bounds, so one that is too long to be written is refused without saying which it is.
-/

namespace StateTraces

/-- An inclusive range of depths. -/
structure DepthWindow where
  minimum : Nat
  maximum : Nat
  ordered : minimum ≤ maximum
  deriving DecidableEq

namespace DepthWindow

/-- Which of the two bounds is meant. -/
inductive Bound where
  | minimum
  | maximum
  deriving DecidableEq, Repr

def Bound.name : Bound → String
  | .minimum => "minimum"
  | .maximum => "maximum"

/-- Why two bounds make no window. -/
inductive Refusal where
  | negative (bound : Bound) (value : Int)
  | reversed (minimum maximum : Nat)
  | loneBound
  | unwritable
  deriving DecidableEq, Repr

def Refusal.message : Refusal → String
  | .negative bound value => s!"Invalid {bound.name} depth: {value}"
  | .reversed minimum maximum =>
    s!"Window minimum {minimum} exceeds maximum {maximum}; " ++
      "use DepthWindow.from_bounds() to normalize"
  | .loneBound => "min_depth and max_depth must be given together"
  | .unwritable => Text.tooLongToWrite

/-- The refusal of bounds that tells these integers. -/
def Refusal.telling (told : List Int) (refusal : Refusal) : Refusal :=
  if told.all fun n => (Text.writeInteger? n).isSome then refusal else .unwritable

/-- The refusal of a negative bound. -/
def Refusal.ofNegative (bound : Bound) (value : Int) : Refusal :=
  .telling [value] (.negative bound value)

theorem ofNegative_of_isShort {bound : Bound} {value : Int} (h : Text.isShort value = true) :
    Refusal.ofNegative bound value = .negative bound value := by
  simp [Refusal.ofNegative, Refusal.telling, Text.isSome_writeInteger?, h]

theorem ofNegative_of_not_isShort {bound : Bound} {value : Int} (h : Text.isShort value = false) :
    Refusal.ofNegative bound value = .unwritable := by
  simp [Refusal.ofNegative, Refusal.telling, Text.isSome_writeInteger?, h]

/-- Both bounds as depths; the minimum is checked first. -/
def checkBounds (minimum maximum : Int) : Except Refusal (Nat × Nat) :=
  if minimum < 0 then .error (.ofNegative .minimum minimum)
  else if maximum < 0 then .error (.ofNegative .maximum maximum)
  else .ok (minimum.toNat, maximum.toNat)

/-- The window with exactly these bounds. -/
def state (minimum maximum : Int) : Except Refusal DepthWindow := do
  let (lo, hi) ← checkBounds minimum maximum
  if h : lo ≤ hi then pure ⟨lo, hi, h⟩ else throw (.telling [lo, hi] (.reversed lo hi))

/-- The window between two depths given in any order. -/
def between (a b : Nat) : DepthWindow := ⟨min a b, max a b, by omega⟩

/-- The window between two bounds given in any order. -/
def ofBounds (minimum maximum : Int) : Except Refusal DepthWindow := do
  let (a, b) ← checkBounds minimum maximum
  pure (between a b)

/-- The window between two bounds, or none if neither is given. -/
def resolve : Option Int → Option Int → Except Refusal (Option DepthWindow)
  | none, none => .ok none
  | some a, some b => (ofBounds a b).map some
  | _, _ => .error .loneBound

def admits (w : DepthWindow) (depth : Int) : Bool := w.minimum ≤ depth && depth ≤ w.maximum

/-- Writes two bounds in brackets. -/
def bracketed? (minimum maximum : Int) : Option String := do
  pure s!"[{← Text.writeInteger? minimum}, {← Text.writeInteger? maximum}]"

/-- The bounds in brackets, or what is said if they are too long. -/
def text (w : DepthWindow) : String := (bracketed? w.minimum w.maximum).getD Text.tooLongToWrite

end DepthWindow

end StateTraces
