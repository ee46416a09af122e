import StateTraces.Config.Library

/-
How values are turned into what a setting holds: texts, lists of texts, and truth values.
-/

namespace StateTraces.Config

/-! ## Texts -/

/-- The text that a value is, or what would have been one; bytes have to write characters. -/
def textOf : Value → Except Expectation String
  | .text s => .ok s
  | .bytes bs => ((Text.Encoding.utf8 false).decode bs).elim (.error .characters) .ok
  | _ => .error .text

def readText (field : Field) (v : Value) : Checked String :=
  (textOf v).mapError fun expected => [{ field, expected }]

/-- The texts of a list, each at its position: all items have to be texts. -/
def readItems (field : Field) (position : Nat) : List Value → Checked (List String)
  | [] => .ok []
  | v :: vs =>
    match textOf v with
    | .ok s => (readItems field (position + 1) vs).map (s :: ·)
    | .error expected =>
      let here : Misfit := { field, index? := position, expected }
      match readItems field (position + 1) vs with
      | .ok _ => .error [here]
      | .error more => .error (here :: more)

/-- The texts of a list or a set. -/
def readTexts (field : Field) : Value → Checked (List String)
  | .list vs | .set vs => readItems field 0 vs
  | _ => misfit field .list

/-! ## Truth values -/

def trueWords : List String := ["1", "on", "t", "true", "y", "yes"]

def falseWords : List String := ["0", "off", "f", "false", "n", "no"]

/-- The least number that a machine word holds. -/
def leastWord : Int := -0x8000000000000000

/-- The truth value that a word in any letter case stands for. -/
def readTruthWord (field : Field) (s : String) : Checked Bool :=
  if s.toLower ∈ trueWords then .ok true
  else if s.toLower ∈ falseWords then .ok false
  else misfit field .truthWord

/-- A truth value: one of the words, or the number zero or one. Numbers that a machine word cannot
hold are no candidates. -/
def readTruth (field : Field) : Value → Checked Bool
  | .bool b => .ok b
  | .text s => readTruthWord field s
  | .bytes bs =>
    ((Text.Encoding.utf8 false).decode bs).elim (misfit field .truthWord) (readTruthWord field)
  | .int n =>
    if n = 1 then .ok true
    else if n = 0 then .ok false
    else misfit field (if leastWord ≤ n ∧ n < -leastWord then .truthWord else .truthValue)
  | .real x =>
    match x.truncate? with
    | none => misfit field .truthValue
    | some n =>
      if !x.isInt n then misfit field .truthValue
      else if n = 1 then .ok true
      else if n = 0 then .ok false
      else misfit field (if leastWord < n ∧ n < -leastWord then .truthWord else .truthValue)
  | _ => misfit field .truthValue

/-- The usual way to turn values into what a setting holds. -/
def Conversions.usual : Conversions where
  toText := readText
  toTexts := readTexts
  toTruth := readTruth

end StateTraces.Config
