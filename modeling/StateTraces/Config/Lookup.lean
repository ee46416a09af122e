import StateTraces.Config.Field
import StateTraces.Environment
import StateTraces.Text.Encoding
import StateTraces.Value

/-
How variables are looked up. A variable is named after its setting, with a prefix before the name;
letter case does not count unless that is asked for. Values whose names start with an underscore
say which prefix it is, which files and directories hold variables, how the files are written, and
which variables count.
-/

namespace StateTraces.Config

/-- How the files with bindings are written: in an encoding, in one that nobody knows, or in
something that is no name of one. -/
inductive Writing where
  | known (encoding : Text.Encoding)
  | unknown
  | noName

/-- How variables are looked up: the prefix of their names (none if it is no text), whether letter
case counts, whether empty variables count, the text that stands for nothing, what separates the
names of the parts of a table, the files with bindings and how they are written, and the directories
with a file for each variable. -/
structure Lookup where
  namePrefix : Option String := some "TRACEGEN_"
  exactCase : Bool := false
  ignoreEmpty : Bool := false
  nothing : Option String := none
  separator : String := ""
  writing : Writing := .known (.utf8 false)
  files : Option (List Value) := some [.text ".env"]
  directories : Option (List Value) := some []

/-- Variables with their values; a variable that is only mentioned has none. -/
abbrev Variables := Table String (Option String)

namespace Lookup

/-- The paths that a value lists: none, a single one, or those of a collection. -/
def pathsOf? : Value → Option (List Value)
  | .null => some []
  | .text s => some [.text s]
  | .bytes [] => some []
  | .list vs | .set vs => some vs
  | .table rows => some (rows.map Prod.fst)
  | _ => none

/-- How files are written, by the name of an encoding. -/
def writingOf : Value → Writing
  | .text s => (Text.Encoding.ofName? s).elim .unknown .known
  | _ => .noName

/-- The way that values ask for. -/
def ofValues (values : Table String Value) : Lookup :=
  let given (name : String) : Option Value := (values.get? name).filter (· != .null)
  let text? : Value → Option String
    | .text s => some s
    | _ => none
  let base : Lookup := {}
  { namePrefix := (given "_env_prefix").elim base.namePrefix text?
    exactCase := (given "_case_sensitive").any (!·.isVoid)
    ignoreEmpty := (given "_env_ignore_empty").any (!·.isVoid)
    nothing := (given "_env_parse_none_str").bind text?
    separator := ((given "_env_nested_delimiter").bind text?).getD ""
    writing := ((given "_env_file_encoding").filter (!·.isVoid)).elim base.writing writingOf
    files := (values.get? "_env_file").elim base.files pathsOf?
    directories := (values.get? "_secrets_dir").elim base.directories pathsOf? }

/-- A name as it counts. -/
def key (l : Lookup) (name : String) : String := if l.exactCase then name else Text.lower name

/-- The variables that count, by the names that count; of several with one name the last counts. -/
def known (l : Lookup) (vars : Variables) : Variables :=
  let counting := vars.filter fun r => !(l.ignoreEmpty && r.2 == some "")
  Table.merge [] (counting.map fun r => (l.key r.1, r.2))

/-- The parts of a table with a name: variables whose names go on after a separator. -/
def parts (l : Lookup) (known : Variables) (name : String) : List (Value × Value) :=
  if l.separator = "" then []
  else known.filterMap fun r =>
    let start := (name ++ l.separator).toList
    if start.isPrefixOf r.1.toList then
      some (.text (String.ofList (r.1.toList.drop start.length)), r.2.elim .null .text)
    else none

/-- The name of the variable of a setting. -/
def variableName? (l : Lookup) (f : Field) : Option String :=
  l.namePrefix.map fun p => l.key (p ++ f.name)

end Lookup

end StateTraces.Config
