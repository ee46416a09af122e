import StateTraces.Console.EmojiNames
import StateTraces.Text.Blank
import StateTraces.Text.LowerCase
import StateTraces.Text.Split

/-
Emoji in texts: a short name between colons stands for the emoji of that name. A name may end with
the wish for its picture or its text form. What is no short name stays, with its colons.
-/

namespace StateTraces.Console

/-- The emoji of a short name in small letters. -/
def emojiOf? (name : String) : Option (List Char) :=
  (emojiNames.flatMap (Text.split ' ')).findSome? fun entry =>
    match Text.split '=' entry with
    | [key, emoji] => if key = name then some emoji.toList else none
    | _ => none

/-- A name without the wish at its end, and the character that grants the wish. -/
def cutForm (name : List Char) : List Char × List Char :=
  let cut (suffix : String) (form : Char) : Option (List Char × List Char) :=
    if suffix.toList.isSuffixOf name then some (name.take (name.length - suffix.length), [form])
    else none
  ((cut "-emoji" '\ufe0f').orElse fun _ => cut "-text" '\ufe0e').getD (name, [])

/-- What the text between two colons stands for, if it is a short name. -/
def emojiText? (name : List Char) : Option (List Char) :=
  let (word, form) := cutForm name
  (emojiOf? (Text.lower (String.ofList word))).map (· ++ form)

theorem length_of_drop {cs rest : List Char} {n : Nat} (h : cs.drop n = ':' :: rest) :
    rest.length < cs.length := by
  have := congrArg List.length h
  simp only [List.length_drop, List.length_cons] at this
  omega

/-- The text with its short names replaced. -/
def withEmoji : List Char → List Char
  | [] => []
  | c :: cs =>
    if c = ':' then
      let name := cs.takeWhile fun d => d != ':' && !Text.isBlank d
      match _h : cs.drop name.length with
      | ':' :: rest => (emojiText? name).getD (':' :: name ++ [':']) ++ withEmoji rest
      | _ => c :: withEmoji cs
    else c :: withEmoji cs
termination_by cs => cs.length
decreasing_by
  · exact Nat.lt_succ_of_lt (length_of_drop _h)
  · exact Nat.lt_succ_self _
  · exact Nat.lt_succ_self _

end StateTraces.Console
