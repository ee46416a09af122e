import StateTraces.Text.Numeral
import StateTraces.Yaml.Scalar

/-
Names of tags, and directives. A name is written out between angle brackets, or as a handle and
what follows it; directives say what handles stand for.
-/

namespace StateTraces.Yaml

/-- The name of a tag: with a handle, what the handle stands for comes before it. -/
structure TagName where
  handle : Option String
  name : String
  deriving DecidableEq, Repr

/-- A line that says which version a text has, or what a handle stands for; others say nothing. -/
inductive Directive where
  | version (major : Int)
  | handle (handle start : String)
  | other
  deriving DecidableEq, Repr

/-- A character of names, handles and anchors. -/
def isNameChar (c : Char) : Bool := c.isAlphanum || c == '-' || c == '_'

/-- A character of the names of tags, or the mark before the code of another one. -/
def isTagChar (c : Char) : Bool := c.isAlphanum || "-;/?:@&=+$,_.!~*'()[]%".toList.contains c

/-- Whether only spaces may stand between a token and the end of its line, or the line ends. -/
def atEnd (cs : List Char) : Bool := cs.head?.all fun c => c == ' ' || isBreak c

def skipSpaces (cs : List Char) : List Char := cs.dropWhile (· == ' ')

/-- The bytes of a text in which a percent sign stands before the two hexadecimal digits of one. -/
def percentBytes : List Char → Option (List UInt8)
  | [] => some []
  | '%' :: a :: b :: cs => do
    let byte := (← hexValue? a) * 16 + (← hexValue? b)
    pure (byte.toUInt8 :: (← percentBytes cs))
  | c :: cs => if c = '%' then none else (percentBytes cs).map (c.toNat.toUInt8 :: ·)

/-- The name at the start of a text, and the text after it. -/
def readTagText (cs : List Char) : Except Fault (String × List Char) :=
  let written := cs.takeWhile isTagChar
  match (percentBytes written).bind fun bytes => String.fromUTF8? ⟨bytes.toArray⟩ with
  | some name => if written = [] then .error .token else .ok (name, cs.drop written.length)
  | none => .error .token

/-- The handle at the start of a text: an exclamation mark and, with a name, another one. -/
def readHandle : List Char → Except Fault (String × List Char)
  | '!' :: cs =>
    let name := cs.takeWhile isNameChar
    if cs.head? = some ' ' then .ok ("!", cs)
    else match cs.drop name.length with
      | '!' :: rest => .ok (String.ofList ('!' :: name ++ ['!']), rest)
      | _ => .error .token
  | _ => .error .token

namespace TagName

/-- The name of a tag after its first exclamation mark, and the text after it. -/
def read (cs : List Char) : Except Fault (TagName × List Char) := do
  let (name, rest) ← match cs with
    | '<' :: cs => do
      let (name, rest) ← readTagText cs
      if rest.head? = some '>' then pure (⟨none, name⟩, rest.drop 1) else throw .token
    | cs =>
      if atGap cs then pure (⟨none, "!"⟩, cs)
      else do
        let word := cs.takeWhile fun c => !(c == ' ' || isBreak c)
        let (handle, rest) ←
          if word.contains '!' then readHandle ('!' :: cs) else pure ("!", cs)
        let (name, rest) ← readTagText rest
        pure (⟨some handle, name⟩, rest)
  if atEnd rest then pure (name, rest) else throw .token

end TagName

/-! ## Directives -/

/-- A number with decimal digits, and the text after it. -/
def readNumber (cs : List Char) : Except Fault (Int × List Char) :=
  let digits := cs.takeWhile Char.isDigit
  if digits = [] then .error .token
  else match Text.readIn 10 (String.ofList digits) with
    | .ok n => .ok (n, cs.drop digits.length)
    | .error misread => .error (.quantity misread.message)

/-- A directive after its percent sign, and the end of its line with the text after it. -/
def readDirective (cs : List Char) : Except Fault (Directive × List Char) := do
  let name := cs.takeWhile isNameChar
  let rest := cs.drop name.length
  if name = [] ∨ !atEnd rest then throw .token
  let (directive, rest) ←
    if name = "YAML".toList then do
      let (major, rest) ← readNumber (skipSpaces rest)
      if rest.head? ≠ some '.' then throw .token
      let (_, rest) ← readNumber (rest.drop 1)
      pure (Directive.version major, rest)
    else if name = "TAG".toList then do
      let (handle, rest) ← readHandle (skipSpaces rest)
      if rest.head? ≠ some ' ' then throw .token
      let (start, rest) ← readTagText (skipSpaces rest)
      pure (Directive.handle handle start, rest)
    else pure (Directive.other, rest.dropWhile (!isBreak ·))
  if !atEnd rest then throw .token
  match skipSpaces rest with
  | '#' :: rest => pure (directive, rest.dropWhile (!isBreak ·))
  | rest => if rest.head?.all isBreak then pure (directive, rest) else throw .token

end StateTraces.Yaml
