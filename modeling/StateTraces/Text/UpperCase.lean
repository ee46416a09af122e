/-
Upper case, as far as it leads to capital letters of ASCII: the small letters, and the few other
letters and ligatures that become such capitals. All other characters stay as they are.
-/

namespace StateTraces.Text

/-- The characters outside ASCII that become capital letters of ASCII. -/
def capitals : List (Char × String) := [
    ('ß', "SS"), ('ı', "I"), ('ſ', "S"), ('ﬀ', "FF"), ('ﬁ', "FI"), ('ﬂ', "FL"), ('ﬃ', "FFI"),
    ('ﬄ', "FFL"), ('ﬅ', "ST"), ('ﬆ', "ST")]

def upperChar (c : Char) : List Char :=
  match capitals.find? (·.1 == c) with
  | some r => r.2.toList
  | none => [c.toUpper]

/-- The text with every letter that has a capital form in ASCII in that form. -/
def upper (s : String) : String := String.ofList (s.toList.flatMap upperChar)

end StateTraces.Text
