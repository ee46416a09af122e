import StateTraces.Config.Load
import StateTraces.Config.Sources
import StateTraces.Yaml.Document

/-
Settings as they are usually found and made.
-/

namespace StateTraces.Config

open Files (Disk FilePath)

/-- The usual library. -/
def Library.usual : Library where
  toConversions := .usual
  readYaml := Yaml.read
  find := Found.gather
  value := Found.first
  make := Settings.make

/-- Loads settings in the usual way. -/
def load (d : Disk) (env : Environment) (path : Option FilePath) :
    Except Fault Settings × List Log.Record :=
  Library.usual.load d env path

end StateTraces.Config
