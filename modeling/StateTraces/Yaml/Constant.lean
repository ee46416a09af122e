import StateTraces.Number.Arithmetic
import StateTraces.Text.Base64
import StateTraces.Text.LowerCase
import StateTraces.Value
import StateTraces.Yaml.Fault
import StateTraces.Yaml.Tag

/-
What a scalar with a tag means. The text has to be what the tag says, but blanks may stand around a
number, and letter case does not count in truth words.
-/

namespace StateTraces.Yaml

open Text (Misread)

def quantity {α : Type} (r : Except Misread α) : Except Fault α :=
  r.mapError fun misread => .quantity misread.message

/-- A number without the marks between its digits, and whether a minus stands before it. -/
def cutNumber (s : String) : Except Fault (Bool × String) :=
  match s.toList.filter (· != '_') with
  | [] => .error .noCharacters
  | cs => .ok ((Text.cutSign cs).map id String.ofList)

/-- An integer: binary after `0b`, hexadecimal after `0x`, octal after a zero, in places of sixty
with colons, or decimal. -/
def integerValue (s : String) : Except Fault Int := do
  let (negative, digits) ← cutNumber s
  let rest (n : Nat) := String.ofList (digits.toList.drop n)
  let n ← match digits.toList with
    | [] => throw .noCharacters
    | ['0'] => pure 0
    | '0' :: 'b' :: _ => quantity (Text.readIn 2 (rest 2))
    | '0' :: 'x' :: _ => quantity (Text.readIn 16 (rest 2))
    | '0' :: _ => quantity (Text.readIn 8 digits)
    | cs => do
      let places ← (Text.splitChars ':' cs).mapM fun p =>
        quantity (Text.readIn 10 (String.ofList p))
      pure (places.foldl (fun n p => n * 60 + p) 0)
  pure (if negative then -n else n)

/-- The real number whose places, the last one smallest, are sixtieths of each other: every place is
rounded, and every sum. -/
def sixtieths (places : List Binary64) : Except Fault Binary64 := do
  let (value, _) ← places.reverse.foldlM (fun (value, unit) place => do
    match Binary64.ofInt unit with
    | .infinite _ => throw .tooLarge
    | x => pure (value.add (place.mul x), unit * 60)) (Binary64.ofInt 0, (1 : Int))
  pure value

/-- A real number, with colons in places of sixty. -/
def realValue (s : String) : Except Fault Binary64 := do
  let (negative, digits) ← cutNumber (Text.lower s)
  let value ← match digits with
    | ".inf" => pure (.infinite false)
    | ".nan" => pure .notANumber
    | digits =>
      match Text.splitChars ':' digits.toList with
      | [_] => quantity (Text.readReal digits)
      | places => do
        sixtieths (← places.mapM fun p => quantity (Text.readReal (String.ofList p)))
  pure (if negative then value.negate else value)

/-- A truth word in any letter case. -/
def truthValue (s : String) : Except Fault Bool :=
  let word := Text.lower s
  if ["yes", "true", "on"].contains word then .ok true
  else if ["no", "false", "off"].contains word then .ok false
  else .error (.truthWord word)

/-- A date, or the moment that it is with a time of day. Of a fraction of the second six digits
count. -/
def dateValue (d : WrittenDate) : Except Moment.Fault Value := do
  let number (cs : List Char) : Nat := Text.digitsValue 10 cs
  let (year, month, day) := (number d.year, number d.month, number d.day)
  match d.time with
  | none => do
    Moment.checkDay year month day
    pure (.date year month day)
  | some t =>
    let micro := number ((t.fraction ++ List.replicate 6 '0').take 6)
    let ahead := t.zone.map fun (negative, hours, minutes) =>
      let n : Int := number hours * 60 + number minutes
      if negative then -n else n
    let m : Moment := { year, month, day, micro, ahead, hour := number t.hour
                        minute := number t.minute, second := number t.second }
    .moment <$> m.check

/-- The value of a scalar with a tag; collections and marks are none. -/
def Tag.scalarValue (tag : Tag) (s : String) : Except Fault Value :=
  match tag with
  | .null => .ok .null
  | .bool => .bool <$> truthValue s
  | .int => .int <$> integerValue s
  | .real => .real <$> realValue s
  | .binary =>
    let cs := s.toList
    if cs.all fun c => c.toNat < 128 then
      (Text.Base64.decode cs).elim (.error .meaning) fun bytes => .ok (.bytes bytes)
    else .error .meaning
  | .timestamp =>
    match readDate (withoutLastBreak s.toList) with
    | none => .error .noDate
    | some d => (dateValue d).mapError fun fault => .quantity fault.message
  | .text => .ok (.text s)
  | _ => .error .meaning

end StateTraces.Yaml
