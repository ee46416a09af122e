import StateTraces.Dot.Lexeme
import StateTraces.Report
import StateTraces.Text.Quoted

/-
What is wrong with a text that is no graph, and where. The place of a complaint about missing text
is right after the last token.
-/

namespace StateTraces.Dot

/-- What is wrong; `found` is the value of the token met, or nothing at the end of the text. -/
inductive Complaint where
  | openAngle
  | openQuote
  | strayCharacter (c : Char)
  | expectedGraph
  | expectedMark (mark : Char) (found : Option String)
  | expectedIdentifier (found : Option String)
  | expectedAttributes
  | strayToken (value : String)
  | notQuoted
  | endOfText
  | textAfterGraph
  deriving DecidableEq, Repr, Inhabited

/-- The value met, in quotes. -/
def foundText (found : Option String) : String := (found.map Text.quoted).getD "end of input"

def Complaint.message : Complaint → String
  | .openAngle => "Unterminated HTML string"
  | .openQuote => "Unterminated string"
  | .strayCharacter c => "Unexpected character " ++ Text.quoted c.toString
  | .expectedGraph => "Expected 'graph' or 'digraph'"
  | .expectedMark mark found =>
    s!"Expected {Text.quoted mark.toString}, found {foundText found}"
  | .expectedIdentifier found => s!"Expected an identifier, found {foundText found}"
  | .expectedAttributes => "Expected '['"
  | .strayToken value => "Unexpected token " ++ Text.quoted value
  | .notQuoted => "Only quoted strings can be concatenated with '+'"
  | .endOfText => "Unexpected end of input"
  | .textAfterGraph => "Unexpected content after graph body"

/-- A complaint and its place. -/
structure Fault where
  complaint : Complaint
  position : Position
  deriving DecidableEq, Repr, Inhabited

/-- The report of a fault in the text of a source. -/
def Fault.report (f : Fault) (source : Option String) : Report :=
  .ofDetails (.malformed (some f.position.line) (some f.position.column))
    { message := f.complaint.message, context := { source } }

end StateTraces.Dot
