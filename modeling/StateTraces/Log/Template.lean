import StateTraces.Json.Literal
import StateTraces.Number.Decimal

/-
Message templates: a percent sign starts a place for a value, with flags, a width, a precision and
the letter of a conversion; two percent signs stand for one. A star stands for a width or precision
that is itself taken from the values. The values come one by one from a list, or by name from an
object. A template that does not fit its values gives no message, nor does one with an integer that
is too long to be written in decimal digits. The codes of surrogates stand for no character.
-/

namespace StateTraces.Log.Template

/-- How far a place has been read. -/
inductive Stage where
  | start
  | name (depth : Nat)
  | flags
  | width
  | afterWidth
  | point
  | precision
  | afterPrecision
  | size
  deriving DecidableEq

/-- A place for a value. -/
structure Place where
  stage : Stage := .start
  name : Option (List Char) := none
  flags : List Char := []
  width : Nat := 0
  precision : Option Nat := none

/-- What a character after the percent sign does. -/
inductive Next where
  | more (place : Place)
  | starWidth (place : Place)
  | starPrecision (place : Place)
  | conversion (place : Place) (letter : Char)

/-- The order in which the parts of a place come. -/
def Stage.rank : Stage → Nat
  | .start => 0
  | .name _ => 0
  | .flags => 1
  | .width => 2
  | .afterWidth => 3
  | .point => 4
  | .precision => 5
  | .afterPrecision => 6
  | .size => 7

def digitOf (c : Char) : Nat := c.toNat - 48

/-- Takes in one character of a place. -/
def Place.feed (p : Place) (c : Char) : Next :=
  match p.stage with
  | .name depth =>
    let name := p.name.getD []
    if c = ')' then
      if depth = 0 then .more { p with stage := .flags }
      else .more { p with stage := .name (depth - 1), name := some (name ++ [c]) }
    else .more { p with stage := .name (if c = '(' then depth + 1 else depth)
                        name := some (name ++ [c]) }
  | stage =>
    if stage = .start ∧ c = '(' then .more { p with stage := .name 0, name := some [] }
    else if stage.rank ≤ 1 ∧ "#0- +".toList.contains c then
      .more { p with stage := .flags, flags := c :: p.flags }
    else if stage.rank ≤ 1 ∧ c = '*' then .starWidth { p with stage := .afterWidth }
    else if stage.rank ≤ 2 ∧ c.isDigit then
      .more { p with stage := .width, width := p.width * 10 + digitOf c }
    else if stage.rank ≤ 3 ∧ c = '.' then .more { p with stage := .point, precision := some 0 }
    else if stage = .point ∧ c = '*' then .starPrecision { p with stage := .afterPrecision }
    else if (stage = .point ∨ stage = .precision) ∧ c.isDigit then
      .more { p with stage := .precision, precision := p.precision.map (· * 10 + digitOf c) }
    else if stage.rank ≤ 6 ∧ "hlL".toList.contains c then .more { p with stage := .size }
    else .conversion p c

/-- The least width and precision that are too large to be written. -/
def tooWide : Nat := 0x200000000

/-- Takes a width from a value; a negative one asks for blanks behind. -/
def Place.withWidth (p : Place) : Json → Option Place
  | .int n => some { p with width := n.natAbs, flags := if n < 0 then '-' :: p.flags else p.flags }
  | .bool b => some { p with width := b.toNat }
  | _ => none

/-- The least precision that a value may ask for. -/
def leastPrecision : Int := -0x80000000

/-- Takes a precision from a value; a negative one counts as zero. -/
def Place.withPrecision (p : Place) : Json → Option Place
  | .int n => if n < leastPrecision then none else some { p with precision := n.toNat }
  | .bool b => some { p with precision := b.toNat }
  | _ => none

/-! ## Conversions -/

/-- Fills a text up to the width of a place, sign and marks first if it is filled with zeros. -/
def Place.fill (p : Place) (zeros : Bool) (front body : List Char) : List Char :=
  let gap := p.width - (front.length + body.length)
  if p.flags.contains '-' then front ++ body ++ List.replicate gap ' '
  else if zeros ∧ p.flags.contains '0' then front ++ List.replicate gap '0' ++ body
  else List.replicate gap ' ' ++ front ++ body

/-- A text in a place, cut to its precision. -/
def Place.word (p : Place) (s : String) : List Char :=
  p.fill false [] (match p.precision with
    | some n => s.toList.take n
    | none => s.toList)

/-- The integer that a value counts as. -/
def wholeNumber? (fractions : Bool) : Json → Option Int
  | .int n => some n
  | .bool b => some (if b then 1 else 0)
  | .real x => if fractions then x.truncate? else none
  | _ => none

/-- The sign of a number: of a negative one, or of any other if a flag asks for one. -/
def Place.sign (p : Place) (negative : Bool) : List Char :=
  if negative then ['-'] else if p.flags.contains '+' then ['+']
  else if p.flags.contains ' ' then [' '] else []

/-- An integer in a place: sign, mark of the base, digits filled up to the precision. -/
def Place.integer (p : Place) (n : Int) (base : Nat) (mark : List Char) (upper : Bool) :
    List Char :=
  let digits := Nat.toDigits base n.natAbs
  let digits := if upper then digits.map Char.toUpper else digits
  let digits := List.replicate (p.precision.getD 0 - digits.length) '0' ++ digits
  p.fill true (p.sign (n < 0) ++ (if p.flags.contains '#' then mark else [])) digits

/-- The floating-point value that a value counts as. -/
def realNumber? : Json → Option Binary64
  | .int n => Binary64.ofInt? n
  | .bool b => Binary64.ofInt? (if b then 1 else 0)
  | .real x => some x
  | _ => none

/-- A floating-point value in a place, with six digits unless a precision is given. -/
def Place.real (p : Place) (style : Binary64.Style) (upper : Bool) (x : Binary64) : List Char :=
  let (negative, body) := x.rounded style (p.precision.getD 6) (p.flags.contains '#')
  p.fill true (p.sign negative) (if upper then body.map Char.toUpper else body)

/-- A value written by the conversion of a letter. -/
def Place.convert (p : Place) (letter : Char) (v : Json) : Option (List Char) :=
  let real (style : Binary64.Style) (upper : Bool) := (realNumber? v).map (p.real style upper)
  if tooWide ≤ p.width ∨ tooWide ≤ p.precision.getD 0 then none
  else match letter with
  | 's' => v.shown?.map p.word
  | 'r' => v.literal?.map p.word
  | 'a' => v.literal?.map (p.word <| Text.asciiOnly ·)
  | 'f' => real .fixed false
  | 'F' => real .fixed true
  | 'e' => real .scientific false
  | 'E' => real .scientific true
  | 'g' => real .general false
  | 'G' => real .general true
  | 'd' | 'i' | 'u' =>
    ((wholeNumber? true v).filter Text.isShort).map fun n => p.integer n 10 [] false
  | 'x' => (wholeNumber? false v).map fun n => p.integer n 16 ['0', 'x'] false
  | 'X' => (wholeNumber? false v).map fun n => p.integer n 16 ['0', 'X'] true
  | 'o' => (wholeNumber? false v).map fun n => p.integer n 8 ['0', 'o'] false
  | 'c' => match v with
    | .str s => if s.length = 1 then some (p.fill false [] s.toList) else none
    | v => (wholeNumber? false v).bind fun n =>
      if 0 ≤ n ∧ n.toNat.isValidChar then some (p.fill false [] [Char.ofNat n.toNat]) else none
  | _ => none

/-! ## Templates -/

/-- The values of a template. An object of named values is a value itself for a place without a name
as long as it is `fresh`: no place has taken a value before. -/
inductive Values where
  | list (values : List Json)
  | named (values : Table String Json) (fresh : Bool)

/-- The value for a star in a place, and the values left after it. A place with a name has a single
value, which is not for stars. -/
def Values.takeStar? (vs : Values) (p : Place) : Option (Json × Values) :=
  match vs, p.name with
  | .list (v :: vs), none => some (v, .list vs)
  | _, _ => none

/-- The value of a place, and the values left after it. -/
def Values.take? (vs : Values) (p : Place) : Option (Json × Values) :=
  match vs, p.name with
  | .named t _, some name => (Table.get? (String.ofList name) t).map (·, .named t false)
  | .named t true, none => some (.obj t, .named t false)
  | .list (v :: vs), none => some (v, .list vs)
  | _, _ => none

/-- Whether no value of a list is left over. -/
def Values.used : Values → Bool
  | .list vs => vs.isEmpty
  | .named _ _ => true

/-- Writes a template, in the middle of a place or outside of one. -/
def write (vs : Values) : Option Place → List Char → Option (List Char)
  | none, [] => if vs.used then some [] else none
  | some _, [] => none
  | none, c :: cs =>
    if c = '%' then write vs (some {}) cs else (write vs none cs).map (c :: ·)
  | some p, c :: cs =>
    match p.feed c with
    | .more p => write vs (some p) cs
    | .starWidth p => do
      let (v, rest) ← vs.takeStar? p
      write rest (some (← p.withWidth v)) cs
    | .starPrecision p => do
      let (v, rest) ← vs.takeStar? p
      write rest (some (← p.withPrecision v)) cs
    | .conversion p letter =>
      if letter = '%' ∧ p.stage = .start then (write vs none cs).map ('%' :: ·)
      else do
        let (v, rest) ← vs.take? p
        let text ← p.convert letter v
        (write rest none cs).map (text ++ ·)

/-- The message of a template. Without values it stands for itself, and a single object names its
values. -/
def message? (template : String) (values : List Json) : Option String :=
  match values with
  | [] => some template
  | [.obj (m :: ms)] => (write (.named (m :: ms) true) none template.toList).map String.ofList
  | vs => (write (.list vs) none template.toList).map String.ofList

end StateTraces.Log.Template
