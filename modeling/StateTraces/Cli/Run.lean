import StateTraces.Cli.Command
import StateTraces.Cli.Program
import StateTraces.Config.Usual
import StateTraces.Console.Grid
import StateTraces.Console.Markup

/-
The program as it usually runs: how its command line is read, and how texts come to the terminal. A
command line that is refused ends with code two.
-/

namespace StateTraces.Cli

open Files (Disk)

/-! ## The terminal -/

/-- The columns of the console. -/
def consoleColumns : Nat := 1000

/-- The columns inside the frame around the table. -/
def frameColumns : Nat := consoleColumns - 4

/-- The words of a line: its longest pieces without blanks. -/
def words (cs : List Char) : List String :=
  let pieces := cs.splitBy fun a b => Text.isBlank a == Text.isBlank b
  (pieces.filter fun piece => !piece.any Text.isBlank).map String.ofList

/-- A line of the table, if it has any words. -/
def tableLine (cells : List (List Char)) : String :=
  match cells.flatMap words with
  | [] => ""
  | ws => "| " ++ " ".intercalate ws ++ "\n"

/-- A table in a frame, its title first. Of lines only the words are kept. -/
def panelText (title : String) (columns : List Column) (rows : List (List String)) : String :=
  let visible := rows.map (·.map Console.visible)
  let widths := columns.map fun c => { fixed := c.fixed, least := c.least }
  let lines := Console.gridLines widths frameColumns (columns.map (·.heading.toList) :: visible)
  let title := ' ' :: Console.visible title ++ [' ']
  tableLine [Console.crop frameColumns title] ++ String.join (lines.map tableLine)

/-- The usual terminal. -/
def Terminal.usual : Terminal where
  echo s := s ++ "\n"
  escape := Console.escape
  print markup := Console.shownIn consoleColumns markup ++ "\n"
  printWhole markup := Console.shown markup ++ "\n"
  panel := panelText

/-! ## Command lines -/

namespace Result

/-- A command line that is refused. -/
def refused (d : Disk) (command : Option Command) : Complaint → Result
  | .nulCharacter => .failed d Files.Fault.nulCharacter.name
  | c => { code := 2, err := refusalText command c, disk := d }

/-- The usage is told because someone asked for help. -/
def helped (d : Disk) (command : Option Command) : Result :=
  { code := 0, out := usage command ++ "\n", disk := d }

end Result

/-- The command of the given name. A name that could be a switch is read as one first. -/
def commandOf (d : Disk) (name : String) (args : List String) : Except Complaint Command :=
  match Command.ofName? name with
  | some command => .ok command
  | none => do
    let (given, _) ← Switch.read commonSwitches false (name :: args)
    let _ ← Switches.ofSettings d given
    throw (.unknownCommand name (Text.similar name (Command.all.map Command.name)))

/-- The choices before a command, the command and its arguments. -/
def readGroup (d : Disk) (args : List String) : Except Result (Common × Command × List String) := do
  let refuse {α : Type} (read : Except Complaint α) := read.mapError (Result.refused d none)
  let (given, rest) ← refuse (Switch.read commonSwitches false args)
  let c ← refuse (Switches.ofSettings d given)
  if c.help then throw (.helped d none)
  match rest with
  | [] =>
    if args.isEmpty then throw { code := 2, err := usage none ++ "\n", disk := d }
    else throw (.refused d none .missingCommand)
  | name :: rest => do
    let command ← refuse (commandOf d name rest)
    pure (c.toCommon, command, rest)

/-- A path of a file, which may not be a directory. -/
def readFile (d : Disk) (s : String) : Except Complaint String :=
  match d.findText s with
  | .ok .directory => .error (.badValue ["FILE"] s!"File {Text.quoted s} is a directory.")
  | .error .nulCharacter => .error .nulCharacter
  | _ => .ok s

/-- What the arguments of a command ask for. -/
def requestOf (d : Disk) (command : Command) (c : Switches) (args : List String) :
    Except Complaint Request :=
  match command, args with
  | .generate, files => .ok (.generate c.toChoices files)
  | .render, [] => .error (.missingArgument "FILE")
  | .render, [file] => (readFile d file).map (.render c.format)
  | .render, file :: extra => (readFile d file).bind fun _ => .error (.extraArguments extra)
  | .version, [] => .ok .version
  | .version, extra => .error (.extraArguments extra)

/-- What the arguments of a command ask for, with its own switches. -/
def readOwn (d : Disk) (command : Command) (args : List String) : Except Result Request := do
  let refuse {α : Type} (read : Except Complaint α) := read.mapError (Result.refused d (some command))
  let (given, args) ← refuse (Switch.read command.switches true args)
  let c ← refuse (Switches.ofSettings d given)
  if c.help then throw (.helped d (some command))
  refuse (requestOf d command c args)

/-- The usual tools. -/
def Tools.usual : Tools where
  terminal := .usual
  group := readGroup
  own := readOwn
  usageError d command message := .refused d (some command) (.usage message)

/-- Runs a command line in the usual way. -/
def run (d : Disk) (env : Environment) (args : List String) : Result :=
  runWith .usual .usual d env args

end StateTraces.Cli
