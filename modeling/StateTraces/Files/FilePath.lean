import StateTraces.Text.Quoted
import StateTraces.Text.Split

/-
File paths: the names from the working directory, or from the root, down to a file. Empty names and
names of a single dot are dropped when a path is read; names of two dots stay.
-/

namespace StateTraces.Files

/-- A path. A root is empty for a relative path, one slash, or exactly two. -/
structure FilePath where
  root : String
  parts : List String
  deriving DecidableEq, Repr, Inhabited

namespace FilePath

/-- The slashes that a path starts with: two are kept, three or more count as one. -/
def rootOf : List Char → String
  | '/' :: '/' :: '/' :: _ => "/"
  | '/' :: '/' :: _ => "//"
  | '/' :: _ => "/"
  | _ => ""

def ofText (s : String) : FilePath where
  root := rootOf s.toList
  parts := (Text.split '/' s).filter fun p => p ≠ "" ∧ p ≠ "."

/-- The path as it is written; the working directory is a dot. -/
def text (p : FilePath) : String :=
  if p.root = "" ∧ p.parts = [] then "." else p.root ++ "/".intercalate p.parts

def isAbsolute (p : FilePath) : Bool := p.root != ""

/-- The last name; empty for the root and the working directory. -/
def name (p : FilePath) : String := p.parts.getLast?.getD ""

/-- The second path, seen from the first one. -/
def join (p q : FilePath) : FilePath :=
  if q.isAbsolute then q else { p with parts := p.parts ++ q.parts }

/-- The path of an entry of a directory. -/
def child (p : FilePath) (name : String) : FilePath := { p with parts := p.parts ++ [name] }

/-- Whether the path is the other one or lies below it. -/
def isUnder (p ancestor : FilePath) : Bool :=
  p.root == ancestor.root && ancestor.parts.isPrefixOf p.parts

/-! ## Renaming -/

/-- Why a path cannot take another name. -/
inductive NameFault where
  | unnamed (path : FilePath)
  | invalid (name : String)
  deriving DecidableEq, Repr

def NameFault.message : NameFault → String
  | .unnamed p => s!"PosixPath({Text.quoted p.text}) has an empty name"
  | .invalid n => "Invalid name " ++ Text.quoted n

/-- The path with some text added to its last name, which has to remain one name. -/
def addSuffix (p : FilePath) (suffix : String) : Except NameFault FilePath :=
  let renamed := p.name ++ suffix
  if p.name = "" then .error (.unnamed p)
  else if renamed.toList.getLast? = some '/' ∨ (ofText renamed).root ≠ "" ∨
      (ofText renamed).parts.length ≠ 1 then .error (.invalid renamed)
  else .ok { p with parts := p.parts.dropLast ++ [renamed] }

end FilePath

end StateTraces.Files
