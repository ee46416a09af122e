import StateTraces.Config.Settings
import StateTraces.Environment
import StateTraces.Files.Disk
import StateTraces.Yaml.Fault

/-
What the settings need from elsewhere: a library that finds values for them in several places, turns
values into what a setting holds and makes settings of them, and a reader of YAML. Nothing is said
here about what they do.
-/

namespace StateTraces.Config

open Files (Disk)

/-- Why there are no settings: they are refused, a source is of no use, a file is no text or written
in an unknown way, a name or path is no text, a file cannot be read, or the settings file is
malformed. -/
inductive Fault where
  | refused (refusal : Refusal)
  | unusable
  | undecodable
  | unknownWriting
  | noText
  | unreadable (fault : Files.Fault)
  | malformed (fault : Yaml.Fault)

/-- Where the value of a setting can come from: it is handed over by name, set by a variable of the
environment or of a file with bindings, or kept in a file of its own. -/
inductive Origin where
  | keyword
  | environment
  | envFile
  | secrets
  deriving DecidableEq, Repr

/-- All origins, the one that counts most first. -/
def Origin.ranked : List Origin := [.keyword, .environment, .envFile, .secrets]

/-- The values that are found for the settings. -/
abbrev Found := Origin → Field → Option Value

/-- How values are turned into what a setting holds. -/
structure Conversions where
  /-- The text that a value is. -/
  toText : Field → Value → Checked String
  /-- The texts that a value lists. -/
  toTexts : Field → Value → Checked (List String)
  /-- The truth value that a value stands for. -/
  toTruth : Field → Value → Checked Bool

namespace Conversions

/-- The directories to search that a value sets. -/
def readIncludePaths (conv : Conversions) (v : Value) : Checked (List String) :=
  conv.toTexts .includePaths (splitPaths v)

/-- The suffix of traces files that a value sets. -/
def readSuffix (conv : Conversions) (v : Value) : Except Refusal (Checked String) :=
  match conv.toText .tracesSuffix v with
  | .ok s => (checkSuffix s).map .ok
  | .error misfits => .ok (.error misfits)

end Conversions

/-- All that is used from elsewhere. Some values are handed over by name. -/
structure Library extends Conversions where
  /-- Reads a YAML text. -/
  readYaml : String → Except Yaml.Fault Value
  /-- Looks for values at all origins. -/
  find : Disk → Environment → Table String Value → Except Fault Found
  /-- The value that counts for a setting, if there is one. -/
  value : Found → Field → Option Value
  /-- Makes settings. -/
  make : Disk → Environment → Table String Value → Except Fault Settings

end StateTraces.Config
