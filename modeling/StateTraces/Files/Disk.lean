import StateTraces.Files.FilePath
import StateTraces.Report
import StateTraces.Table
import StateTraces.Text.Encoding

/-
A directory tree with its files, as seen from a working directory. Looking a path up goes name by
name: every name but the last has to be a directory. Of what lies outside the working directory only
the root and the directories above are there. The tree has no links and no permissions: a path is
refused for what its names are and lead to, never for who asks.
-/

namespace StateTraces.Files

/-- What a file holds: a text, or bytes that are no text. -/
inductive Content where
  | text (s : String)
  | binary (bytes : List UInt8)
  deriving DecidableEq, Repr, Inhabited

/-- The content that is written as these bytes. -/
def Content.ofBytes (bytes : List UInt8) : Content :=
  match String.fromUTF8? ⟨bytes.toArray⟩ with
  | some s => .text s
  | none => .binary bytes

/-- The names from the working directory down to a file or directory. Names of two dots in front
lead to the directories above, and a slash in front to the root. -/
abbrev Location := List String

/-- The directories and files below a working directory. -/
structure Disk where
  directories : List Location := []
  files : Table Location Content := []
  deriving Inhabited

/-- What is found at a location. -/
inductive Kind where
  | directory
  | file (content : Content)

/-- Why a file cannot be used: the tree refuses it or, at the end, the path is none at all. -/
inductive Fault where
  | notFound
  | alreadyThere
  | isDirectory
  | notDirectory
  | nameTooLong
  | nulCharacter
  deriving DecidableEq, Repr

namespace Fault

def number : Fault → Nat
  | .notFound => 2
  | .alreadyThere => 17
  | .isDirectory => 21
  | .notDirectory => 20
  | .nameTooLong => 36
  | .nulCharacter => 0

def message : Fault → String
  | .notFound => "No such file or directory"
  | .alreadyThere => "File exists"
  | .isDirectory => "Is a directory"
  | .notDirectory => "Not a directory"
  | .nameTooLong => "File name too long"
  | .nulCharacter => "embedded null byte"

def name : Fault → String
  | .notFound => "FileNotFoundError"
  | .alreadyThere => "FileExistsError"
  | .isDirectory => "IsADirectoryError"
  | .notDirectory => "NotADirectoryError"
  | .nameTooLong => "OSError"
  | .nulCharacter => "ValueError"

/-- The fault as the cause of a report. -/
def cause (f : Fault) (path : String) : Cause :=
  ⟨f.name, s!"[Errno {f.number}] {f.message}: {Text.quoted path}"⟩

end Fault

/-- The greatest number of bytes of a name. -/
def longestName : Nat := 255

/-- The greatest number of bytes of a path. -/
def longestPath : Nat := 4095

namespace Disk

/-! ## Looking up -/

/-- Whether a location is the working directory, one above it, or the root. -/
def isAbove (loc : Location) : Bool := loc == ["/"] || loc.all (· == "..")

def kind? (d : Disk) (loc : Location) : Option Kind :=
  if isAbove loc ∨ loc ∈ d.directories then some .directory else (d.files.get? loc).map .file

/-- The directory that a location lies in. -/
def parent (loc : Location) : Location :=
  if loc = ["/"] then loc else if isAbove loc then loc ++ [".."] else loc.dropLast

/-- Goes from a location, which has to be a directory, along the names of a path. -/
def walk (d : Disk) (here : Location) : List String → Except Fault Location
  | [] => .ok here
  | name :: names =>
    match d.kind? here with
    | none => .error .notFound
    | some (.file _) => .error .notDirectory
    | some .directory =>
      if name = "" ∨ name = "." then walk d here names
      else if name = ".." then walk d (parent here) names
      else if longestName < name.utf8ByteSize then .error .nameTooLong
      else walk d (here ++ [name]) names

/-- Where a path starts, and its names as they are written. -/
def start (s : String) : Except Fault (Location × List String) :=
  if s.contains '\x00' then .error .nulCharacter
  else if s = "" then .error .notFound
  else if longestPath < s.utf8ByteSize then .error .nameTooLong
  else .ok (if s.toList.head? = some '/' then ["/"] else [], Text.split '/' s)

/-- The location of a path as it is written; a name before a slash has to be a directory. -/
def locateText (d : Disk) (s : String) : Except Fault Location := do
  let (here, names) ← start s
  d.walk here names

/-- The location of a path. -/
def locate (d : Disk) (p : FilePath) : Except Fault Location := d.locateText p.text

/-- What is found at a path as it is written. -/
def findText (d : Disk) (s : String) : Except Fault Kind := do
  let loc ← d.locateText s
  match d.kind? loc with
  | some kind => pure kind
  | none => throw .notFound

/-- What is found at a path. -/
def find (d : Disk) (p : FilePath) : Except Fault Kind := d.findText p.text

/-- What is found at a path, if there is anything. A path that is too long to look up is an error
all the same. -/
def look? (d : Disk) (p : FilePath) : Except Fault (Option Kind) :=
  match d.find p with
  | .ok kind => .ok (some kind)
  | .error .nameTooLong => .error .nameTooLong
  | .error _ => .ok none

/-- The names of the files and directories right inside a location, sorted. -/
def names (d : Disk) (loc : Location) : List String :=
  let inside (l : Location) := if l ≠ [] ∧ l.dropLast = loc then l.getLast? else none
  (d.directories.filterMap inside ++ d.files.keys.filterMap inside).mergeSort fun a b => a ≤ b

/-! ## Reading and writing -/

def read (d : Disk) (p : FilePath) : Except Fault Content := do
  match ← d.find p with
  | .file content => pure content
  | .directory => throw .isDirectory

/-- Writes a file, new or in place of the one that is there. -/
def writeText (d : Disk) (s : String) (content : Content) : Except Fault Disk := do
  let loc ← d.locateText s
  match d.kind? loc with
  | some .directory => throw .isDirectory
  | _ => pure { d with files := d.files.set loc content }

/-- Writes a file, new or in place of the one that is there. -/
def write (d : Disk) (p : FilePath) (content : Content) : Except Fault Disk :=
  d.writeText p.text content

/-- The same tree with the directories that are missing along the names of a path. -/
def makeAlong (d : Disk) (here : Location) : List String → Except Fault Disk
  | [] => .ok d
  | name :: names =>
    if name = "" ∨ name = "." then makeAlong d here names
    else if name = ".." then makeAlong d (parent here) names
    else if longestName < name.utf8ByteSize then .error .nameTooLong
    else
      let next := here ++ [name]
      match d.kind? next with
      | some .directory => makeAlong d next names
      | some (.file _) => .error (if names.all (· == "") then .alreadyThere else .notDirectory)
      | none => makeAlong { d with directories := d.directories ++ [next] } next names

/-- The same tree with a directory and all that it lies in. -/
def makeDirectories (d : Disk) (s : String) : Except Fault Disk := do
  let (here, names) ← start s
  d.makeAlong here names

/-- The same tree with a file and all the directories that it lies in. -/
def put (d : Disk) (s : String) (content : Content) : Except Fault Disk := do
  let (here, names) ← start s
  (← d.makeAlong here names.dropLast).writeText s content

/-- The same tree without a file. -/
def remove (d : Disk) (s : String) : Except Fault Disk := do
  let loc ← d.locateText s
  match d.kind? loc with
  | none => throw .notFound
  | some .directory => throw .isDirectory
  | some (.file _) => pure { d with files := d.files.filter (·.1 ≠ loc) }

end Disk

/-- The text with every line end written as a newline. -/
def normalLines : List Char → List Char
  | '\r' :: '\n' :: cs => '\n' :: normalLines cs
  | '\r' :: cs => '\n' :: normalLines cs
  | c :: cs => c :: normalLines cs
  | [] => []

/-- The bytes that write a content. -/
def Content.toBytes : Content → List UInt8
  | .text s => s.toUTF8.toList
  | .binary bytes => bytes

/-- The lines of a file as one text, unless its bytes are no text. -/
def Content.lines? : Content → Option String
  | .text s => some (String.ofList (normalLines s.toList))
  | .binary _ => none

/-- The lines of a file in some encoding as one text, unless its bytes are no text. -/
def Content.linesIn? (c : Content) (e : Text.Encoding) : Option String :=
  (e.decode c.toBytes).map fun s => String.ofList (normalLines s.toList)

end StateTraces.Files
