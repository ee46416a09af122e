import StateTraces.Table
import StateTraces.Text.LowerCase

/-
Environment variables.
-/

namespace StateTraces

/-- The environment variables, each with its value. -/
abbrev Environment := Table String String

namespace Environment

/-- The words that switch something on, in small letters. -/
def consent : List String := ["true", "1", "yes"]

/-- Whether a value is a word of consent, in any letter case. -/
def isConsent (value : String) : Bool := consent.contains (Text.lower value)

end Environment

end StateTraces
