/-
The lexemes of the graph language: what a piece of text means, apart from where it stands.
-/

namespace StateTraces.Dot

/-- A lexeme. Quoted texts and angle texts hold what stands between their delimiters. -/
inductive Lexeme where
  | word (name : String)
  | numeral (digits : String)
  | quoted (value : String)
  | angle (value : String)
  | arrow (directed : Bool)
  | mark (c : Char)
  deriving DecidableEq, Repr, Inhabited

namespace Lexeme

def value : Lexeme → String
  | .word s | .numeral s | .quoted s | .angle s => s
  | .arrow directed => if directed then "->" else "--"
  | .mark c => c.toString

def kind : Lexeme → String
  | .word _ => "ID"
  | .numeral _ => "NUMERAL"
  | .quoted _ => "STRING"
  | .angle _ => "HTML"
  | .arrow _ => "EDGE_OP"
  | .mark _ => "PUNCT"

end Lexeme

/-- A place in a text: line and column count from one, and only a newline ends a line. -/
structure Position where
  line : Nat
  column : Nat
  deriving DecidableEq, Repr, Inhabited

namespace Position

def start : Position := ⟨1, 1⟩

/-- The place after a character. -/
def next (p : Position) (c : Char) : Position :=
  if c = '\n' then ⟨p.line + 1, 1⟩ else ⟨p.line, p.column + 1⟩

/-- The place after a piece of text. -/
def advance (p : Position) (text : List Char) : Position := text.foldl next p

end Position

/-- A lexeme and the place of its first character. -/
structure Token where
  lexeme : Lexeme
  position : Position
  deriving DecidableEq, Repr, Inhabited

namespace Token

def value (t : Token) : String := t.lexeme.value

/-- The place right after the value of the token, as if it stood on one line. -/
def stop (t : Token) : Position := ⟨t.position.line, t.position.column + t.value.length⟩

end Token

end StateTraces.Dot
