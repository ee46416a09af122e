import StateTraces.Environment
import StateTraces.Text.Blank

/-
Files of environment variables. A binding is a name, an equals sign and a value, which stands in
quotes or goes on to the end of the line. A line that is no binding is passed over. A name in braces
after a dollar sign stands for the value of that variable, in the file above or in the environment.
-/

namespace StateTraces.Config.EnvFile

open Text (isBlank)

/-- A variable that a file mentions, with its value if it has one. -/
abbrev Binding := String × Option String

/-- Something read and the text after it, or the text where it cannot be read. -/
abbrev Reads (α : Type) := Except (List Char) (α × List Char)

def isLineEnd (c : Char) : Bool := c == '\n' || c == '\r'

/-- A blank that ends no line. -/
def isSpace (c : Char) : Bool := isBlank c && !isLineEnd c

def skipSpaces (cs : List Char) : List Char := cs.dropWhile isSpace

/-! ## Names -/

/-- The text after the word `export`, if spaces follow it. -/
def afterExport (cs : List Char) : List Char :=
  let rest := cs.drop 6
  if "export".toList.isPrefixOf cs && rest.head?.any isSpace then skipSpaces rest else cs

def endsName (c : Char) : Bool := c == '=' || c == '#' || isBlank c

/-- The name of a binding; a comment has none. -/
def readName (cs : List Char) : Reads (Option String) :=
  match cs with
  | '#' :: _ => .ok (none, cs)
  | '\'' :: inner =>
    match inner.span (· != '\'') with
    | (c :: name, _ :: rest) => .ok (String.ofList (c :: name), rest)
    | _ => .error cs
  | _ =>
    match cs.span (!endsName ·) with
    | ([], _) => .error cs
    | (name, rest) => .ok (String.ofList name, rest)

/-! ## Values -/

/-- Cuts a text at the quote that closes it: the first one without a backslash before it or, if
there is none, the last one at all. -/
def cutAtQuote (quote : Char) : List Char → Option (List Char × List Char)
  | [] => none
  | '\\' :: c :: cs =>
    if c = quote then
      match cutAtQuote quote cs with
      | some (text, rest) => some ('\\' :: c :: text, rest)
      | none => some (['\\'], cs)
    else (cutAtQuote quote (c :: cs)).map fun r => ('\\' :: r.1, r.2)
  | c :: cs =>
    if c = quote then some ([], cs) else (cutAtQuote quote cs).map fun r => (c :: r.1, r.2)

/-- What a character after a backslash stands for, in double quotes. -/
def escapes : Table Char Char :=
  [('\\', '\\'), ('\'', '\''), ('"', '"'), ('a', '\x07'), ('b', '\x08'), ('f', '\x0c'),
    ('n', '\n'), ('r', '\r'), ('t', '\t'), ('v', '\x0b')]

/-- In single quotes only backslashes and single quotes are escaped. -/
def singleEscapes : Table Char Char := escapes.take 2

/-- The text with its escapes replaced; a backslash before any other character stays. -/
def unescape (table : Table Char Char) : List Char → List Char
  | '\\' :: c :: cs =>
    match table.get? c with
    | some d => d :: unescape table cs
    | none => '\\' :: unescape table (c :: cs)
  | c :: cs => c :: unescape table cs
  | [] => []

/-- The text up to a comment: a number sign with blanks before it. -/
def uncommented : List Char → List Char
  | [] => []
  | c :: cs =>
    if isBlank c ∧ ((c :: cs).dropWhile isBlank).head? = some '#' then [] else c :: uncommented cs

def trimEnd (cs : List Char) : List Char := (cs.reverse.dropWhile isBlank).reverse

/-- The value of a binding. -/
def readValue (cs : List Char) : Reads (List Char) :=
  let quoted (quote : Char) (table : Table Char Char) (inner : List Char) : Reads (List Char) :=
    match cutAtQuote quote inner with
    | some (text, rest) => .ok (unescape table text, rest)
    | none => .error cs
  match cs with
  | '\'' :: inner => quoted '\'' singleEscapes inner
  | '"' :: inner => quoted '"' escapes inner
  | _ =>
    let (text, rest) := cs.span (!isLineEnd ·)
    .ok (trimEnd (uncommented text), rest)

/-! ## Bindings -/

/-- The text after the end of the line, before which only a comment may stand. -/
def readLineEnd (cs : List Char) : Reads Unit :=
  let rest := match skipSpaces cs with
    | '#' :: comment => comment.dropWhile (!isLineEnd ·)
    | rest => rest
  match rest with
  | [] => .ok ((), [])
  | c :: rest => if isLineEnd c then .ok ((), rest) else .error cs

/-- The binding at the front of a text that does not start with a blank. -/
def readBinding (cs : List Char) : Except (List Char) (Option Binding × List Char) := do
  let (name, rest) ← readName (afterExport cs)
  let (value, rest) ← match skipSpaces rest with
    | '=' :: rest => (readValue (skipSpaces rest)).map fun r => (some (String.ofList r.1), r.2)
    | rest => .ok (none, rest)
  let ((), rest) ← readLineEnd rest
  pure (name.map (·, value), rest)

/-- The binding at the front of a text, if there is one, and the text after it. -/
def nextBinding (cs : List Char) : Option Binding × List Char :=
  match cs.dropWhile isBlank with
  | [] => (none, [])
  | cs =>
    match readBinding cs with
    | .ok r => r
    | .error rest => (none, (rest.dropWhile (!isLineEnd ·)).drop 1)

/-- All bindings, in order. -/
def bindings (cs : List Char) : List Binding :=
  let (binding, rest) := nextBinding cs
  if rest.length < cs.length then binding.toList ++ bindings rest else binding.toList
termination_by cs.length

/-! ## Variables in values -/

/-- A variable in braces at the front of a text: its name, the value it has if it is not set, and
the length of all. -/
def mention? (cs : List Char) : Option (String × String × Nat) :=
  match cs with
  | '\x7b' :: inner =>
    let name := inner.takeWhile fun c => c != '\x7d' && c != ':'
    match inner.drop name.length with
    | '\x7d' :: _ => some (String.ofList name, "", name.length + 2)
    | ':' :: '-' :: rest =>
      let default := rest.takeWhile (· != '\x7d')
      if default.length < rest.length then
        some (String.ofList name, String.ofList default, name.length + default.length + 4)
      else none
    | _ => none
  | _ => none

/-- The text with its variables replaced. -/
def expand (value : String → Option String) : List Char → List Char
  | [] => []
  | c :: cs =>
    match if c = '$' then mention? cs else none with
    | some (name, default, length) =>
      ((value name).getD default).toList ++ expand value (cs.drop length)
    | none => c :: expand value cs
termination_by cs => cs.length
decreasing_by all_goals simp only [List.length_drop, List.length_cons]; omega

/-- The variables of a file; one that has no value in its last binding has none. -/
def read (env : Environment) (text : String) : Table String (Option String) :=
  let note (known : Table String (Option String)) (b : Binding) :=
    let value (name : String) : Option String :=
      match known.get? name with
      | some v => some (v.getD "")
      | none => env.get? name
    known.set b.1 (b.2.map fun v => String.ofList (expand value v.toList))
  (bindings text.toList).foldl note []

end StateTraces.Config.EnvFile
