import StateTraces.Text.Split
import StateTraces.Text.Numeral

/-
Tags say what a node is. A plain scalar without a tag is what it looks like: nothing, a truth value,
an integer in one of five notations, a real, a date, one of the marks for merging and for default
values, and a text for everything else.
-/

namespace StateTraces.Yaml

/-- What a node is. The last one stands for all that has no meaning here. -/
inductive Tag where
  | null
  | bool
  | int
  | real
  | binary
  | timestamp
  | text
  | list
  | table
  | set
  | pairs
  | merge
  | default
  | unknown
  deriving DecidableEq, Repr, Inhabited

/-! ## Shapes of plain scalars -/

def nullWords : List String := ["", "~", "null", "Null", "NULL"]

def trueWords : List String := ["yes", "Yes", "YES", "true", "True", "TRUE", "on", "On", "ON"]

def falseWords : List String := ["no", "No", "NO", "false", "False", "FALSE", "off", "Off", "OFF"]

def isDecimal (c : Char) : Bool := c.isDigit || c == '_'

/-- Digits with marks between them, the first of which is a digit. -/
def areDecimals (cs : List Char) : Bool := cs.head?.any Char.isDigit && cs.all isDecimal

/-- Whether a text is a number below sixty, of one or two digits. -/
def isSixtieth : List Char → Bool
  | [a] => a.isDigit
  | [a, b] => '0' ≤ a && a ≤ '5' && b.isDigit
  | _ => false

/-- Whether an integer without its sign is meant: binary after `0b`, hexadecimal after `0x`, octal
after a zero, in places of sixty with colons, or decimal. -/
def isInteger (cs : List Char) : Bool :=
  let isHex (c : Char) := "0123456789abcdef_".toList.contains c.toLower
  match cs with
  | ['0'] => true
  | '0' :: 'b' :: d :: ds => (d :: ds).all "01_".toList.contains
  | '0' :: 'x' :: d :: ds => (d :: ds).all isHex
  | '0' :: ds => ds.all "01234567_".toList.contains
  | cs =>
    match Text.splitChars ':' cs with
    | first :: places => areDecimals first && places.all isSixtieth
    | [] => false

/-- Whether an exponent of ten with its sign is meant, or there is none. -/
def isExponent : List Char → Bool
  | [] => true
  | e :: sign :: d :: ds =>
    (e == 'e' || e == 'E') && (sign == '-' || sign == '+') && (d :: ds).all Char.isDigit
  | _ => false

/-- Whether a real without its sign is meant: digits around a point, where those before the point
may be places of sixty, or digits after a point that has no sign before it. -/
def isReal (signed : Bool) (cs : List Char) : Bool :=
  let whole := cs.takeWhile (· != '.')
  match cs.drop whole.length with
  | '.' :: rest =>
    let decimals := rest.takeWhile isDecimal
    let after := rest.drop decimals.length
    match Text.splitChars ':' whole with
    | [[]] =>
      let word := String.ofList rest
      ["inf", "Inf", "INF"].contains word ||
        (!signed && (["nan", "NaN", "NAN"].contains word ||
          (areDecimals decimals && isExponent after)))
    | [first] => areDecimals first && isExponent after
    | first :: places => areDecimals first && places.all isSixtieth && after.isEmpty
    | [] => false
  | _ => false

/-! ## Dates -/

/-- The time of day of a date as it is written: a fraction of the second may be left out, and so may
how far the clock is ahead, with a minus for clocks that are behind. -/
structure WrittenTime where
  hour : List Char
  minute : List Char
  second : List Char
  fraction : List Char
  zone : Option (Bool × List Char × List Char)

/-- A date as it is written. -/
structure WrittenDate where
  year : List Char
  month : List Char
  day : List Char
  time : Option WrittenTime

/-- Digits at the start of a text, `least` at least and `most` at most. -/
def takeDigits (least most : Nat) (cs : List Char) : Option (List Char × List Char) :=
  let digits := (cs.take most).takeWhile Char.isDigit
  if least ≤ digits.length then some (digits, cs.drop digits.length) else none

/-- The text after a character, if it starts with it. -/
def after? (c : Char) (cs : List Char) : Option (List Char) :=
  if cs.head? = some c then some (cs.drop 1) else none

def skipBlanks (cs : List Char) : List Char := cs.dropWhile fun c => c == ' ' || c == '\t'

/-- How far a clock is ahead, as it is written; nothing else may follow. -/
def readZone (cs : List Char) : Option (Option (Bool × List Char × List Char)) :=
  match skipBlanks cs with
  | [] => if cs = [] then some none else none
  | ['Z'] => some (some (false, [], []))
  | sign :: cs => do
    let (hours, cs) ← takeDigits 1 2 cs
    let minutes ← if cs = [] then pure [] else do
      let (minutes, cs) ← takeDigits 2 2 (← after? ':' cs)
      if cs = [] then pure minutes else none
    if sign = '-' ∨ sign = '+' then pure (some (sign == '-', hours, minutes)) else none

/-- A time of day as it is written. -/
def readTime (cs : List Char) : Option WrittenTime := do
  let cs ← match cs with
    | 'T' :: cs | 't' :: cs => pure cs
    | cs => if cs.head?.any fun c => c == ' ' || c == '\t' then pure (skipBlanks cs) else none
  let (hour, cs) ← takeDigits 1 2 cs
  let (minute, cs) ← takeDigits 2 2 (← after? ':' cs)
  let (second, cs) ← takeDigits 2 2 (← after? ':' cs)
  let fraction := ((after? '.' cs).getD []).takeWhile Char.isDigit
  let cs := ((after? '.' cs).getD cs).drop fraction.length
  pure { hour, minute, second, fraction, zone := ← readZone cs }

/-- A date as it is written, with a time of day or without. -/
def readDate (cs : List Char) : Option WrittenDate := do
  let (year, cs) ← takeDigits 4 4 cs
  let (month, cs) ← takeDigits 1 2 (← after? '-' cs)
  let (day, cs) ← takeDigits 1 2 (← after? '-' cs)
  if cs = [] then pure { year, month, day, time := none }
  else pure { year, month, day, time := some (← readTime cs) }

/-- Whether a date is meant: without a time of day its parts are filled up with zeros. -/
def isDate (cs : List Char) : Bool :=
  (readDate cs).any fun d => d.time.isSome || (d.month.length == 2 && d.day.length == 2)

/-! ## Tags -/

/-- A text without a line end as its last character. -/
def withoutLastBreak (cs : List Char) : List Char :=
  if cs.getLast? = some '\n' then cs.dropLast else cs

namespace Tag

/-- The tag with a name. -/
def ofName (name : String) : Tag :=
  let named : List (String × Tag) := [("null", null), ("bool", bool), ("int", int), ("float", real),
    ("binary", binary), ("timestamp", timestamp), ("str", text), ("seq", list), ("map", table),
    ("set", set), ("omap", pairs), ("pairs", pairs), ("merge", merge), ("value", default)]
  ((named.find? fun r => "tag:yaml.org,2002:" ++ r.1 == name).map Prod.snd).getD unknown

/-- The tag that a plain scalar implies. A line end as its last character does not count, but does
not make it nothing. -/
def implied (s : String) : Tag :=
  let cs := withoutLastBreak s.toList
  let word := String.ofList cs
  let signed := cs.head? = some '-' ∨ cs.head? = some '+'
  let unsigned := if signed then cs.drop 1 else cs
  if cs = [] then (if s = "" then null else text)
  else if word ∈ nullWords then null
  else if word ∈ trueWords ∨ word ∈ falseWords then bool
  else if isReal signed unsigned then real
  else if isInteger unsigned then int
  else if isDate cs then timestamp
  else if word = "<<" then merge
  else if word = "=" then default
  else if word ∈ ["!", "&", "*"] then unknown
  else text

end Tag

end StateTraces.Yaml
