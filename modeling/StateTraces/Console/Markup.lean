import StateTraces.Console.Emoji
import StateTraces.Console.Wrap

/-
Console markup: a tag in brackets sets a style and is not shown. Backslashes before a tag stand in
pairs for one backslash each, and an odd one lets the tag stand for itself. Text that is no markup
is escaped before it is put between tags.
-/

namespace StateTraces.Console

/-! ## Tags -/

/-- Whether a tag may begin with a character after its bracket. -/
def startsTag (c : Char) : Bool := c.isLower || c == '#' || c == '/' || c == '@'

/-- The length of the tag at the front of a text; zero if there is none. -/
def tagLength : List Char → Nat
  | '[' :: c :: cs =>
    let body := cs.takeWhile fun d => d != '[' && d != ']'
    if startsTag c ∧ (cs.drop body.length).head? = some ']' then body.length + 3 else 0
  | _ => 0

/-- A part of a text: characters without a tag, or a tag with the backslashes before it. -/
inductive Part where
  | plain (text : List Char)
  | tag (backslashes : Nat) (text : List Char)
  deriving DecidableEq, Repr

/-- A character put in front of the parts. -/
def Part.extend (c : Char) : List Part → List Part
  | .plain text :: parts => .plain (c :: text) :: parts
  | parts => .plain [c] :: parts

/-- The parts of a text after `backslashes` backslashes that may belong to a tag. -/
def partsAfter (backslashes : Nat) (cs : List Char) : List Part :=
  let settle (parts : List Part) :=
    (List.replicate backslashes '\\').foldr Part.extend parts
  match cs with
  | [] => settle []
  | c :: cs =>
    let n := tagLength (c :: cs)
    if c = '\\' then partsAfter (backslashes + 1) cs
    else if 0 < n then .tag backslashes ((c :: cs).take n) :: partsAfter 0 (cs.drop (n - 1))
    else settle (Part.extend c (partsAfter 0 cs))
termination_by cs.length
decreasing_by all_goals simp only [List.length_drop, List.length_cons]; omega

def parts (cs : List Char) : List Part := partsAfter 0 cs

/-! ## Escaping -/

/-- The text as markup that shows it; the backslash of a text that ends with a single one is
doubled, since a tag may follow. -/
def escape (s : String) : String :=
  let written : Part → List Char
    | .plain text => text
    | .tag n text => List.replicate (2 * n + 1) '\\' ++ text
  let cs := (parts s.toList).flatMap written
  let single := cs.getLast? = some '\\' ∧ cs.dropLast.getLast? ≠ some '\\'
  String.ofList (if single then cs ++ ['\\'] else cs)

/-! ## Showing -/

/-- Characters that act on the terminal and are left out. -/
def isAction (c : Char) : Bool := "\x07\x08\x0b\x0c\x0d".toList.contains c

/-- A text with every backslash before an opening bracket left out. -/
def withoutGuards : List Char → List Char
  | '\\' :: '[' :: cs => '[' :: withoutGuards cs
  | c :: cs => c :: withoutGuards cs
  | [] => []

/-- What is shown of plain characters. -/
def plainText (cs : List Char) : List Char := withEmoji (withoutGuards cs)

def Part.shown : Part → List Char
  | .plain text => plainText text
  | .tag n text =>
    List.replicate (n / 2) '\\' ++ if n % 2 = 0 then [] else plainText text

/-- The characters that a text with markup shows. -/
def visible (markup : String) : List Char :=
  ((parts markup.toList).flatMap Part.shown).filter (!isAction ·)

/-- What is shown of a text with markup, line by line as it is. -/
def shown (markup : String) : String :=
  String.ofList (['\n'].intercalate ((splitAt (· == '\n') (visible markup)).map withoutTabs))

/-- What is shown of a text with markup in so many columns. -/
def shownIn (columns : Nat) (markup : String) : String :=
  String.ofList (['\n'].intercalate (wrap .fold columns (visible markup)))

end StateTraces.Console
