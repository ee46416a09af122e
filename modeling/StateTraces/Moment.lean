/-
Days of the calendar and moments of a day. A moment may know how far its clock is ahead of the
common time; then two clocks differ by less than a day.
-/

namespace StateTraces

/-- A day with a time of day, and how many minutes its clock is ahead if that is known. -/
structure Moment where
  year : Nat
  month : Nat
  day : Nat
  hour : Nat
  minute : Nat
  second : Nat
  micro : Nat := 0
  ahead : Option Int := none
  deriving DecidableEq, Repr, Inhabited

namespace Moment

/-- A part of a date that no calendar has. -/
inductive Fault where
  | year (value : Nat)
  | month
  | day
  | hour
  | minute
  | second
  | ahead (minutes : Int)
  deriving DecidableEq, Repr

/-- A length of time, as whole days and the seconds after them. -/
def durationText (minutes : Int) : String :=
  let days := minutes / 1440
  let seconds := minutes % 1440 * 60
  let parts := (if days = 0 then [] else [s!"days={days}"]) ++
    (if seconds = 0 then [] else [s!"seconds={seconds}"])
  "datetime.timedelta(" ++ (if parts.isEmpty then "0" else ", ".intercalate parts) ++ ")"

def Fault.message : Fault → String
  | .year value => s!"year {value} is out of range"
  | .month => "month must be in 1..12"
  | .day => "day is out of range for month"
  | .hour => "hour must be in 0..23"
  | .minute => "minute must be in 0..59"
  | .second => "second must be in 0..59"
  | .ahead minutes =>
    "offset must be a timedelta strictly between -timedelta(hours=24) and timedelta(hours=24), " ++
      s!"not {durationText minutes}."

def daysIn (year month : Nat) : Nat :=
  if month = 2 then
    if (year % 4 = 0 ∧ year % 100 ≠ 0) ∨ year % 400 = 0 then 29 else 28
  else if [4, 6, 9, 11].contains month then 30 else 31

/-- Checks that there is such a day. -/
def checkDay (year month day : Nat) : Except Fault Unit :=
  if year = 0 then .error (.year 0)
  else if month = 0 ∨ 12 < month then .error .month
  else if day = 0 ∨ daysIn year month < day then .error .day
  else .ok ()

/-- The moment, if there is such a one: the clock is looked at before the day and the time. -/
def check (m : Moment) : Except Fault Moment := do
  if let some minutes := m.ahead then
    if minutes ≤ -1440 ∨ 1440 ≤ minutes then throw (.ahead minutes)
  checkDay m.year m.month m.day
  if 23 < m.hour then throw .hour
  if 59 < m.minute then throw .minute
  if 59 < m.second then throw .second
  pure m

/-- The moment as part of a message: zeros at the end of the time are left out. -/
def literal (m : Moment) : String :=
  let late := (if m.second = 0 ∧ m.micro = 0 then [] else [m.second]) ++
    (if m.micro = 0 then [] else [m.micro])
  let parts := ([m.year, m.month, m.day, m.hour, m.minute] ++ late).map fun n => s!"{n}"
  let clock := match m.ahead with
    | none => []
    | some 0 => ["tzinfo=datetime.timezone.utc"]
    | some minutes => ["tzinfo=datetime.timezone(" ++ durationText minutes ++ ")"]
  "datetime.datetime(" ++ ", ".intercalate (parts ++ clock) ++ ")"

end Moment

end StateTraces
