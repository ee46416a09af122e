import StateTraces.Cli.Switch
import StateTraces.Cli.Tools
import StateTraces.Text.Integer

/-
The command line of the program as it is usually read: switches for all commands, the name of a
command, and the switches and arguments of that command. Switches are checked in the order in which
they are given.
-/

namespace StateTraces.Cli

open Files (Disk)

/-- The switches of the program and its commands. -/
inductive Meaning where
  | help
  | verbose
  | config
  | jsonLogs
  | minimum
  | maximum
  | includePaths
  | showTraces
  | format
  deriving DecidableEq, Repr

/-- All switches. -/
def switch : Meaning → Switch Meaning
  | .help => ⟨.help, ["--help"], false⟩
  | .verbose => ⟨.verbose, ["--verbose", "-v"], false⟩
  | .config => ⟨.config, ["--config", "-c"], true⟩
  | .jsonLogs => ⟨.jsonLogs, ["--json-logs"], false⟩
  | .minimum => ⟨.minimum, ["--min"], true⟩
  | .maximum => ⟨.maximum, ["--max"], true⟩
  | .includePaths => ⟨.includePaths, ["--include", "-I"], true⟩
  | .showTraces => ⟨.showTraces, ["--show-traces"], false⟩
  | .format => ⟨.format, ["--format", "-f"], true⟩

namespace Command

def all : List Command := [.generate, .render, .version]

def name : Command → String
  | .generate => "generate"
  | .render => "render"
  | .version => "version"

def ofName? (s : String) : Option Command := all.find? (·.name == s)

def switches : Command → List (Switch Meaning)
  | .generate =>
    [switch .minimum, switch .maximum, switch .includePaths, switch .showTraces, switch .format,
      switch .help]
  | .render => [switch .format, switch .help]
  | .version => [switch .help]

end Command

/-- The switches before a command. -/
def commonSwitches : List (Switch Meaning) :=
  [switch .verbose, switch .config, switch .jsonLogs, switch .help]

/-- The name under which the program tells its usage. -/
def program : String := "cli"

/-- The command line that is asked for: in general, or of a command. -/
def usage : Option Command → String
  | none => s!"Usage: {program} [OPTIONS] COMMAND [ARGS]..."
  | some .generate => s!"Usage: {program} generate [OPTIONS] [FILES]..."
  | some .render => s!"Usage: {program} render [OPTIONS] FILE"
  | some .version => s!"Usage: {program} version [OPTIONS]"

/-- Where help is found. -/
def hint (command : Option Command) : String :=
  let name := command.elim program fun c => s!"{program} {c.name}"
  s!"Try '{name} --help' for help."

/-- What is told about a command line that is refused. -/
def refusalText (command : Option Command) (c : Complaint) : String :=
  (if c.showsUsage then s!"{usage command}\n{hint command}\n\n" else "") ++
    s!"Error: {c.message}\n"

/-! ## Values of switches -/

/-- What was set for one command line. -/
structure Switches extends Common, Choices where
  help : Bool := false
  deriving Inhabited

/-- The refusal of a value of a switch. -/
def badValue {α : Type} (m : Meaning) (problem : String) : Except Complaint α :=
  .error (.badValue (switch m).names problem)

def readInteger (m : Meaning) (s : String) : Except Complaint Int :=
  match Text.readInteger? s with
  | some n => .ok n
  | none => badValue m s!"{Text.quoted s} is not a valid integer."

def readFormat (s : String) : Except Complaint Format :=
  if s = "text" then .ok .text
  else if s = "json" then .ok .json
  else badValue .format s!"{Text.quoted s} is not one of 'text', 'json'."

/-- A path that has to be there. -/
def readPresent (d : Disk) (m : Meaning) (s : String) : Except Complaint String :=
  match d.findText s with
  | .ok _ => .ok s
  | .error .nulCharacter => .error .nulCharacter
  | .error _ => badValue m s!"Path {Text.quoted s} does not exist."

namespace Switches

/-- Takes in one switch with its value. -/
def take (d : Disk) (c : Switches) (s : Setting Meaning) : Except Complaint Switches :=
  match s.1 with
  | .help => .ok { c with help := true }
  | .verbose => .ok { c with verbose := true }
  | .config => (readPresent d .config s.2).map fun p => { c with config := some p }
  | .jsonLogs => .ok { c with jsonLogs := true }
  | .minimum => (readInteger .minimum s.2).map fun n => { c with minimum := some n }
  | .maximum => (readInteger .maximum s.2).map fun n => { c with maximum := some n }
  | .includePaths => .ok { c with includePaths := some s.2 }
  | .showTraces => .ok { c with showTraces := true }
  | .format => (readFormat s.2).map fun f => { c with format := f }

/-- What switches set. Asking for help comes before everything else. -/
def ofSettings (d : Disk) (given : Table Meaning String) : Except Complaint Switches :=
  if given.keys.contains .help then .ok { help := true } else given.foldlM (take d) {}

end Switches

end StateTraces.Cli
