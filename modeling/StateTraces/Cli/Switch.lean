import StateTraces.Cli.Complaint
import StateTraces.Table
import StateTraces.Text.Similar

/-
Switches on a command line. A long name follows two hyphens and a single letter one; a value stands
in the next argument, after an equals sign behind a long name, or right behind the letter. Two
hyphens alone end the switches.
-/

namespace StateTraces.Cli

/-- A switch of a command: what it means, its names, and whether it takes a value. -/
structure Switch (κ : Type) where
  meaning : κ
  names : List String
  takesValue : Bool := true

/-- A switch that was given, with its value; one that takes none has the empty value. -/
abbrev Setting (κ : Type) := κ × String

/-- A switch whose value is due, under the name by which it was given. -/
abbrev Due (κ : Type) := κ × String

/-- Whether a name stands behind two hyphens. -/
def isLong (name : String) : Bool := name.toList.take 2 == ['-', '-']

/-- Whether an argument gives switches. -/
def isSwitch (argument : String) : Bool :=
  argument.toList.head? == some '-' && 1 < argument.length

namespace Switch

variable {κ : Type}

def find? (switches : List (Switch κ)) (name : String) : Option (Switch κ) :=
  switches.find? (·.names.contains name)

/-- The switches that letters behind one hyphen give, up to one that takes a value. -/
def readLetters (switches : List (Switch κ)) :
    List Char → Except Complaint (List (Setting κ) × Option (Due κ))
  | [] => .ok ([], none)
  | c :: cs =>
    let name := String.ofList ['-', c]
    match find? switches name with
    | none => .error (.unknownOption name [])
    | some s =>
      if s.takesValue then
        if cs.isEmpty then .ok ([], some (s.meaning, name))
        else .ok ([(s.meaning, String.ofList cs)], none)
      else (readLetters switches cs).map fun r => ((s.meaning, "") :: r.1, r.2)

/-- The switches that an argument gives. -/
def readArgument (switches : List (Switch κ)) (argument : String) :
    Except Complaint (List (Setting κ) × Option (Due κ)) :=
  let (head, tail) := argument.toList.span (· != '=')
  let name := String.ofList head
  match (find? switches name).filter fun _ => isLong name, tail with
  | some s, [] =>
    if s.takesValue then .ok ([], some (s.meaning, name)) else .ok ([(s.meaning, "")], none)
  | some s, _ :: value =>
    if s.takesValue then .ok ([(s.meaning, String.ofList value)], none)
    else .error (.needlessValue name)
  | none, _ =>
    if isLong argument then
      .error (.unknownOption name
        (Text.similar name ((switches.flatMap (·.names)).filter isLong)))
    else readLetters switches (argument.toList.drop 1)

/-- Separates the switches of a command line from its other arguments. The switches end at the
first other argument unless they may stand between them. -/
def separate (switches : List (Switch κ)) (between : Bool) : Option (Due κ) → List String →
    Except Complaint (List (Setting κ) × List String)
  | some (_, name), [] => .error (.missingValue name)
  | none, [] => .ok ([], [])
  | some (k, _), value :: args =>
    (separate switches between none args).map fun r => ((k, value) :: r.1, r.2)
  | none, argument :: args =>
    if argument = "--" then .ok ([], args)
    else if isSwitch argument then do
      let (given, due) ← readArgument switches argument
      (separate switches between due args).map fun r => (given ++ r.1, r.2)
    else if between then
      (separate switches between none args).map fun r => (r.1, argument :: r.2)
    else .ok ([], argument :: args)

/-- The switches of a command line, in the order in which they are given first and with the values
that are given last, and its other arguments. -/
def read [DecidableEq κ] (switches : List (Switch κ)) (between : Bool) (args : List String) :
    Except Complaint (Table κ String × List String) :=
  (separate switches between none args).map fun r => (Table.merge [] r.1, r.2)

end Switch

end StateTraces.Cli
