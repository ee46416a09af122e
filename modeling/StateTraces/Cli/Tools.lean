import StateTraces.Files.Disk

/-
What the program needs from elsewhere: tools that read its command line, end a run whose arguments
are at fault, and bring texts to the terminal. Nothing is said here about what they do.
-/

namespace StateTraces.Cli

open Files (Disk)

/-- How results are written. -/
inductive Format where
  | text
  | json
  deriving DecidableEq, Repr

/-- The commands. -/
inductive Command where
  | generate
  | render
  | version
  deriving DecidableEq, Repr

/-- What is chosen for all commands. -/
structure Common where
  verbose : Bool := false
  config : Option String := none
  jsonLogs : Bool := false
  deriving DecidableEq, Inhabited

/-- What is chosen for writing traces files. -/
structure Choices where
  minimum : Option Int := none
  maximum : Option Int := none
  includePaths : Option String := none
  showTraces : Bool := false
  format : Format := .text
  deriving DecidableEq, Inhabited

/-- A command with its arguments. -/
inductive Request where
  | generate (choices : Choices) (files : List String)
  | render (format : Format) (file : String)
  | version

/-- What a command line leaves behind: the exit code, what was written to both streams, the tree,
and the kind of the failure that nobody handled, if there was one. -/
structure Result where
  code : Nat
  out : String := ""
  err : String := ""
  disk : Disk
  failure : Option String := none
  deriving Inhabited

/-- A failure that nobody handled. -/
def Result.failed (d : Disk) (kind : String) : Result := { code := 1, disk := d, failure := kind }

/-- A column of a table: its heading and the fixed width or the least one. -/
structure Column where
  heading : String
  fixed : Option Nat := none
  least : Nat := 0

/-- How texts come to the terminal. -/
structure Terminal where
  /-- A text on lines of its own. -/
  echo : String → String
  /-- The markup that shows a text. -/
  escape : String → String
  /-- Markup on lines of its own, which are broken where the terminal ends. -/
  print : String → String
  /-- Markup on lines of its own, however long they are. -/
  printWhole : String → String
  /-- A table in a frame with a title; title and cells are markup. -/
  panel : String → List Column → List (List String) → String

/-- All tools. -/
structure Tools where
  terminal : Terminal
  /-- The choices before a command, the command and its arguments, or the end of the run. -/
  group : Disk → List String → Except Result (Common × Command × List String)
  /-- What the arguments of a command ask for, or the end of the run. -/
  own : Disk → Command → List String → Except Result Request
  /-- The end of a run whose command finds the arguments at fault. -/
  usageError : Disk → Command → String → Result

end StateTraces.Cli
