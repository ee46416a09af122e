import StateTraces.Json
import StateTraces.Text.Numeral

/-
Writing JSON values: on one line, with a blank after each comma and colon, or spread over lines
with an indentation of two blanks. Characters outside ASCII are written as they are or as escapes of
their UTF-16 units. A value that holds an integer of too many digits is not written at all.
-/

namespace StateTraces.Json

open Text (hex)

/-- Which characters of a text may stand unescaped. -/
inductive Alphabet where
  | ascii
  | unicode
  deriving DecidableEq, Repr

/-- An escape by four hexadecimal digits for each UTF-16 unit. -/
def unitEscape (c : Char) : List Char :=
  let n := c.toNat
  if n < 0x10000 then '\\' :: 'u' :: hex 4 n
  else
    let m := n - 0x10000
    '\\' :: 'u' :: hex 4 (0xD800 + m / 0x400) ++ '\\' :: 'u' :: hex 4 (0xDC00 + m % 0x400)

/-- One character of a text. -/
def charText (alphabet : Alphabet) (c : Char) : List Char :=
  if c = '"' then ['\\', '"']
  else if c = '\\' then ['\\', '\\']
  else if c = '\n' then ['\\', 'n']
  else if c = '\r' then ['\\', 'r']
  else if c = '\t' then ['\\', 't']
  else if c = '\x0c' then ['\\', 'f']
  else if c = '\x08' then ['\\', 'b']
  else if c.toNat < 0x20 ∨ (alphabet = .ascii ∧ 0x7E < c.toNat) then unitEscape c
  else [c]

/-- A text between double quotes. -/
def strChars (alphabet : Alphabet) (s : String) : List Char :=
  '"' :: s.toList.flatMap (charText alphabet) ++ ['"']

/-- A floating-point value, with names for those that have no digits. -/
def realChars : Binary64 → List Char
  | .notANumber => "NaN".toList
  | .infinite negative => (if negative then "-Infinity" else "Infinity").toList
  | x => x.text.toList

mutual

/-- A value on one line. -/
def lineChars (alphabet : Alphabet) : Json → List Char
  | .null => "null".toList
  | .bool b => (if b then "true" else "false").toList
  | .int n => Text.decimal n
  | .real x => realChars x
  | .str s => strChars alphabet s
  | .arr [] => ['[', ']']
  | .arr (j :: js) => '[' :: lineChars alphabet j ++ moreItems alphabet js
  | .obj [] => ['{', '}']
  | .obj ((k, j) :: ms) =>
    '{' :: strChars alphabet k ++ ':' :: ' ' :: lineChars alphabet j ++ moreMembers alphabet ms

/-- The items after the first, and the closing bracket. -/
def moreItems (alphabet : Alphabet) : List Json → List Char
  | [] => [']']
  | j :: js => ',' :: ' ' :: lineChars alphabet j ++ moreItems alphabet js

/-- The members after the first, and the closing brace. -/
def moreMembers (alphabet : Alphabet) : List (String × Json) → List Char
  | [] => ['}']
  | (k, j) :: ms =>
    ',' :: ' ' :: strChars alphabet k ++ ':' :: ' ' :: lineChars alphabet j ++
      moreMembers alphabet ms

end

/-- The value on one line. -/
def line (alphabet : Alphabet) (j : Json) : String := String.ofList (lineChars alphabet j)

/-- A line break and the indentation of a level. -/
def newline (level : Nat) : List Char := '\n' :: List.replicate (2 * level) ' '

mutual

/-- A value spread over lines, at a level of nesting. -/
def pageChars (alphabet : Alphabet) (level : Nat) : Json → List Char
  | .arr (j :: js) =>
    '[' :: newline (level + 1) ++ pageChars alphabet (level + 1) j ++
      pageItems alphabet level js
  | .obj ((k, j) :: ms) =>
    '{' :: newline (level + 1) ++ strChars alphabet k ++ ':' :: ' ' ::
      pageChars alphabet (level + 1) j ++ pageMembers alphabet level ms
  | j => lineChars alphabet j

/-- The items after the first, and the closing bracket on a line of its own. -/
def pageItems (alphabet : Alphabet) (level : Nat) : List Json → List Char
  | [] => newline level ++ [']']
  | j :: js =>
    ',' :: newline (level + 1) ++ pageChars alphabet (level + 1) j ++ pageItems alphabet level js

/-- The members after the first, and the closing brace on a line of its own. -/
def pageMembers (alphabet : Alphabet) (level : Nat) : List (String × Json) → List Char
  | [] => newline level ++ ['}']
  | (k, j) :: ms =>
    ',' :: newline (level + 1) ++ strChars alphabet k ++ ':' :: ' ' ::
      pageChars alphabet (level + 1) j ++ pageMembers alphabet level ms

end

/-- The value spread over lines. -/
def page (alphabet : Alphabet) (j : Json) : String := String.ofList (pageChars alphabet 0 j)

/-! ## Long integers -/

mutual

/-- Whether the value can be written: no integer in it is too long. -/
def isWritable : Json → Bool
  | .int n => (Text.writeInteger? n).isSome
  | .arr js => areWritable js
  | .obj ms => membersAreWritable ms
  | _ => true

def areWritable : List Json → Bool
  | [] => true
  | j :: js => isWritable j && areWritable js

def membersAreWritable : List (String × Json) → Bool
  | [] => true
  | (_, j) :: ms => isWritable j && membersAreWritable ms

end

/-- Writes the value on one line. -/
def line? (alphabet : Alphabet) (j : Json) : Option String :=
  if j.isWritable then some (j.line alphabet) else none

/-- Writes the value spread over lines. -/
def page? (alphabet : Alphabet) (j : Json) : Option String :=
  if j.isWritable then some (j.page alphabet) else none

end StateTraces.Json
