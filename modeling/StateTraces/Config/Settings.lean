import StateTraces.Config.Field
import StateTraces.DepthWindow
import StateTraces.Log.Record
import StateTraces.Report
import StateTraces.Text.Encoding
import StateTraces.Text.Integer
import StateTraces.Text.Split
import StateTraces.Value

/-
The settings and their own checks. A depth that is no integer or negative and a suffix that does
more than to extend a name are reported. A text with colons lists directories.
-/

namespace StateTraces.Config

/-- The settings of the program. -/
structure Settings where
  minDepth : Option Nat := none
  maxDepth : Option Nat := none
  includePaths : List String := ["src/main/resources/dot_files", "."]
  filePattern : String := "*.dot"
  tracesSuffix : String := ".traces"
  showTraces : Bool := false
  verbose : Bool := false
  jsonLogs : Bool := false
  deriving DecidableEq, Repr, Inhabited

/-- What a value of a wrong kind should have been. -/
inductive Expectation where
  | writable
  | text
  | characters
  | list
  | truthWord
  | truthValue
  deriving DecidableEq, Repr

def Expectation.name : Expectation → String
  | .writable => "value_error"
  | .text => "string_type"
  | .characters => "string_unicode"
  | .list => "list_type"
  | .truthWord => "bool_parsing"
  | .truthValue => "bool_type"

/-- A value of a wrong kind: the setting, the position in its list if it has one, and what was
expected. -/
structure Misfit where
  field : Field
  index? : Option Nat := none
  expected : Expectation
  deriving DecidableEq, Repr

def Misfit.text (m : Misfit) : String :=
  m.field.name ++ (m.index?.elim "" fun i => s!".{i}") ++ ": " ++ m.expected.name

/-- Why values make no settings: one is reported, one is infinite where an integer is due, or there
are values of a wrong kind, which are collected. -/
inductive Refusal where
  | reported (report : Report)
  | infinite
  | misfits (misfits : List Misfit)

/-- The report of a bad setting. -/
def badSetting (field : Field) (message : String) (extra : Table String Json := []) : Report :=
  .ofDetails (.invalidConfig field.name) { message, context := { extra } }

/-- A value that fits, or all that does not fit. -/
abbrev Checked (α : Type) := Except (List Misfit) α

def misfit {α : Type} (field : Field) (expected : Expectation) : Checked α :=
  .error [{ field, expected }]

/-! ## Checks -/

/-- The integer that a value stands for; a fraction is cut off. -/
def wholeNumber? : Value → Option Int
  | .bool b => some (if b then 1 else 0)
  | .int n => some n
  | .real x => x.truncate?
  | .text s => Text.readInteger? s
  | .bytes bs => (Text.Encoding.ascii.decode bs).bind Text.readInteger?
  | _ => none

/-- The depth that a value sets; nothing and the empty text set none. What cannot be written cannot
be reported, and does not fit. -/
def readDepth (field : Field) (v : Value) : Except Refusal (Checked (Option Nat)) :=
  let refuse (told? : Option String) (demand : String) (extra : Table String Json) :=
    told?.elim (.ok (misfit field .writable)) fun told =>
      .error (.reported (badSetting field (demand ++ ", got " ++ told) extra))
  match v with
  | .null | .text "" => .ok (.ok none)
  | .real (.infinite _) => .error .infinite
  | v =>
    match wholeNumber? v with
    | none => refuse v.literal? s!"{field.name} must be an integer" []
    | some n =>
      if n < 0 then
        refuse (Text.writeInteger? n) s!"{field.name} must be non-negative"
          [("hint", .str "omit the option for unbounded depth")]
      else .ok (.ok (some n.toNat))

/-- The names of a list that are separated by colons; empty ones do not count. -/
def pathsOf (s : String) : List String := (Text.split ':' s).filter (· ≠ "")

/-- Makes a list of a text with colons, where no directory at all means the working directory. -/
def splitPaths : Value → Value
  | .text s => .list ((if pathsOf s = [] then ["."] else pathsOf s).map .text)
  | v => v

/-- Whether a suffix only extends a name: it is not empty and holds no separator of paths. -/
def isPlainSuffix (s : String) : Bool := s ≠ "" && !s.contains '/' && !s.contains '\\'

/-- The suffix of traces files. -/
def checkSuffix (s : String) : Except Refusal String :=
  if isPlainSuffix s then .ok s
  else .error (.reported (badSetting .tracesSuffix
    s!"traces_suffix must be a plain file suffix, got {Text.quoted s}"))

namespace Settings

/-- The depth window between both depths. A lone depth makes none. -/
def window? (s : Settings) : Option DepthWindow :=
  match s.minDepth, s.maxDepth with
  | some a, some b => some (.between a b)
  | _, _ => none

/-- The name under which settings are logged. -/
def logger : String := "tracegen.config.settings"

/-- The warning about a lone depth, if it can be written. -/
def loneDepth? (s : Settings) : Option Log.Record := do
  let shown (d : Option Nat) := d.elim (some "None") fun n => Text.writeInteger? n
  if s.minDepth.isSome = s.maxDepth.isSome then none
  else some (.warning logger (s!"Only one depth bound configured (min={← shown s.minDepth}, " ++
    s!"max={← shown s.maxDepth}); enumerating without a window"))

end Settings

end StateTraces.Config
