import StateTraces.Text.Quoted

/-
What can be wrong with a command line, and how it is told.
-/

namespace StateTraces.Cli

/-- Why a command line is refused. Names that are similar to an unknown one are suggested. A path
with a NUL character cannot even be looked up, which nobody handles. -/
inductive Complaint where
  | unknownOption (name : String) (similar : List String)
  | unknownCommand (name : String) (similar : List String)
  | missingCommand
  | missingValue (option : String)
  | needlessValue (option : String)
  | missingArgument (name : String)
  | badValue (names : List String) (problem : String)
  | extraArguments (arguments : List String)
  | usage (message : String)
  | nulCharacter
  deriving DecidableEq, Repr

namespace Complaint

open Text (quoted)

/-- The suggestion of similar names, after a space. -/
def suggestion : List String → String
  | [] => ""
  | [name] => s!" Did you mean {quoted name}?"
  | names => " (Did you mean one of: " ++ ", ".intercalate (names.map quoted) ++ "?)"

def message : Complaint → String
  | .unknownOption name similar => s!"No such option {quoted name}.{suggestion similar}"
  | .unknownCommand name similar => s!"No such command {quoted name}.{suggestion similar}"
  | .missingCommand => "Missing command."
  | .missingValue option => s!"Option {quoted option} requires an argument."
  | .needlessValue option => s!"Option {quoted option} does not take a value."
  | .missingArgument name => s!"Missing argument {quoted name}."
  | .badValue names problem =>
    "Invalid value for " ++ " / ".intercalate (names.map quoted) ++ ": " ++ problem
  | .extraArguments [argument] => s!"Got unexpected extra argument ({argument})"
  | .extraArguments arguments =>
    "Got unexpected extra arguments (" ++ " ".intercalate arguments ++ ")"
  | .usage message => message
  | .nulCharacter => "embedded null byte"

/-- Whether the usage is shown with the complaint. Where only the value of an option is at fault
the complaint stands alone. -/
def showsUsage : Complaint → Bool
  | .missingValue _ | .needlessValue _ => false
  | _ => true

end Complaint

end StateTraces.Cli
