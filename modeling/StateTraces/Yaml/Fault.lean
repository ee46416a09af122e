/-
What can be wrong with a YAML text.
-/

namespace StateTraces.Yaml

/-- Why a text is no YAML document with a meaning: a character that may not occur, no token where
one is due, tokens in no valid order, a reference to nothing, or a node without a meaning. With a
stated tag more can be wrong: a number, a date or a truth word that is none, a number without
characters, one that is too large, a collection where a date is due, or a text that leads back to
itself. The code of a surrogate, which is half a character, is refused: texts hold no halves. -/
inductive Fault where
  | character
  | token
  | order
  | reference
  | meaning
  | quantity (message : String)
  | truthWord (word : String)
  | noCharacters
  | tooLarge
  | noDate
  | dateParts
  | circle
  | surrogate
  deriving DecidableEq, Repr

namespace Fault

def name : Fault → String
  | .character => "ReaderError"
  | .token => "ScannerError"
  | .order => "ParserError"
  | .reference => "ComposerError"
  | .meaning => "ConstructorError"
  | .quantity _ => "ValueError"
  | .truthWord _ => "KeyError"
  | .noCharacters => "IndexError"
  | .tooLarge => "OverflowError"
  | .noDate => "AttributeError"
  | .dateParts => "TypeError"
  | .circle => "RecursionError"
  | .surrogate => "UnicodeEncodeError"

/-- What the fault says, where that is of use. -/
def message? : Fault → Option String
  | .quantity message => some message
  | .truthWord word => some word
  | _ => none

end Fault

end StateTraces.Yaml
