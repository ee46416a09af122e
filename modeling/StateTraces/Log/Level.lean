import StateTraces.Text.Numeral
import StateTraces.Text.UpperCase

/-
Levels of log records: some have words for names, any other number is a level too, and is named by
its digits. So a number that is too long to be written has no name.
-/

namespace StateTraces.Log

/-- The weight of a record. -/
abbrev Level := Int

namespace Level

def debug : Level := 10
def info : Level := 20
def warning : Level := 30
def error : Level := 40
def critical : Level := 50

/-- The word that is the name of a level. -/
def word? (level : Level) : Option String :=
  if level = 0 then some "NOTSET"
  else if level = debug then some "DEBUG"
  else if level = info then some "INFO"
  else if level = warning then some "WARNING"
  else if level = error then some "ERROR"
  else if level = critical then some "CRITICAL"
  else none

/-- The name of a level, if it has one. -/
def name? (level : Level) : Option String :=
  (word? level).or ((Text.writeInteger? level).map fun digits => s!"Level {digits}")

/-- The name of a level, or what is said if its number is too long. -/
def name (level : Level) : String := (name? level).getD Text.tooLongToWrite

/-- The words that name a level, in capital letters. -/
def ofWord? : String → Option Level
  | "NOTSET" => some 0
  | "DEBUG" => some debug
  | "INFO" => some info
  | "WARNING" | "WARN" => some warning
  | "ERROR" => some error
  | "CRITICAL" | "FATAL" => some critical
  | _ => none

/-- Two things that are kept under names beside the levels: the pattern of a line and the table of
styles. Neither is a level. -/
inductive Stranger where
  | pattern
  | styles
  deriving DecidableEq, Repr

/-- The text of the pattern of a line. -/
def linePattern : String := "%(levelname)s:%(name)s:%(message)s"

/-- The level of a name, in any letter case; a name of nothing means informative. -/
def ofName (s : String) : Except Stranger Level :=
  match Text.upper s with
  | "BASIC_FORMAT" => .error .pattern
  | "_STYLES" => .error .styles
  | word => .ok ((ofWord? word).getD info)

end Level

end StateTraces.Log
