import StateTraces.Dot.Complaint

/-
Cutting a text into pieces. Every piece is found from the front of the text that is left: its
meaning and its length. Blanks, newlines, comments and directives mean nothing; a directive is a
line whose first character after blanks is a number sign. The longest run is taken where a run
may end anywhere; a delimited piece ends at the first delimiter that closes it.
-/

namespace StateTraces.Dot

/-- What a piece of text means. -/
inductive Piece where
  | newline
  | blank
  | directive
  | comment
  | lexeme (lexeme : Lexeme)
  deriving DecidableEq, Repr

/-- A piece at the front of a text. -/
structure Cut where
  piece : Piece
  length : Nat
  positive : 0 < length

/-- A piece of the first character and some more. -/
def Cut.first (piece : Piece) (more : Nat) : Cut := ⟨piece, more + 1, Nat.succ_pos more⟩

/-! ## Lengths -/

def isBlank (c : Char) : Bool :=
  c == ' ' || c == '\t' || c == '\r' || c == '\x0c' || c == '\x0b'

/-- A letter, an underscore, or any character from U+0080 to U+FFFF. -/
def startsWord (c : Char) : Bool :=
  c.isAlpha || c == '_' || (0x80 ≤ c.toNat && c.toNat ≤ 0xFFFF)

def continuesWord (c : Char) : Bool := startsWord c || c.isDigit

/-- The length of the run of characters that satisfy `p`. -/
def run (p : Char → Bool) (cs : List Char) : Nat := (cs.takeWhile p).length

/-- The length through the first `*/`. -/
def commentEnd : List Char → Option Nat
  | [] => none
  | c :: cs =>
    if c = '*' ∧ cs.head? = some '/' then some 2 else (commentEnd cs).map (· + 1)

/-- The length through the quote that is not escaped. -/
def quoteEnd : List Char → Option Nat
  | [] => none
  | '"' :: _ => some 1
  | '\\' :: _ :: cs => (quoteEnd cs).map (· + 2)
  | _ :: cs => (quoteEnd cs).map (· + 1)

/-- The length through the bracket that closes the angle text, `inner` brackets deep. -/
def angleEnd (inner : Nat) : List Char → Option Nat
  | [] => none
  | c :: cs =>
    if c = '<' then (angleEnd (inner + 1) cs).map (· + 1)
    else if c = '>' then
      match inner with
      | 0 => some 1
      | n + 1 => (angleEnd n cs).map (· + 1)
    else (angleEnd inner cs).map (· + 1)

/-- The length of an unsigned numeral: a point and digits, or digits that a point and more digits
may follow. -/
def unsignedLength (cs : List Char) : Nat :=
  let whole := run Char.isDigit cs
  match cs.drop whole with
  | '.' :: rest =>
    let fraction := run Char.isDigit rest
    if whole = 0 ∧ fraction = 0 then 0 else whole + 1 + fraction
  | _ => whole

/-- The length of a numeral, with its sign if it has one. -/
def numeralLength : List Char → Nat
  | '-' :: cs => if unsignedLength cs = 0 then 0 else unsignedLength cs + 1
  | cs => unsignedLength cs

/-- The value of a quoted text: an escaped quote is a quote, an escaped newline is nothing, and
every other backslash stays. -/
def unquote : List Char → List Char
  | '\\' :: '"' :: cs => '"' :: unquote cs
  | '\\' :: '\n' :: cs => unquote cs
  | c :: cs => c :: unquote cs
  | [] => []

/-! ## Pieces -/

/-- The piece at the front of a text that is not empty. -/
def cut (lineStart : Bool) (c : Char) (cs : List Char) : Except Complaint Cut :=
  let text (n : Nat) := String.ofList ((c :: cs).take n)
  let numeral := numeralLength (c :: cs)
  if c = '\n' then .ok (.first .newline 0)
  else if lineStart ∧ c = '#' then .ok (.first .directive (run (· != '\n') cs))
  else if isBlank c then .ok (.first .blank (run isBlank cs))
  else if c = '/' ∧ cs.head? = some '/' then .ok (.first .comment (run (· != '\n') cs))
  else if c = '/' ∧ cs.head? = some '*' then
    match commentEnd (cs.drop 1) with
    | some n => .ok (.first .comment (n + 1))
    | none => .error (.strayCharacter c)
  else if c = '-' ∧ cs.head? = some '>' then .ok (.first (.lexeme (.arrow true)) 1)
  else if c = '-' ∧ cs.head? = some '-' then .ok (.first (.lexeme (.arrow false)) 1)
  else if h : 0 < numeral then .ok ⟨.lexeme (.numeral (text numeral)), numeral, h⟩
  else if startsWord c then
    let more := run continuesWord cs
    .ok (.first (.lexeme (.word (text (more + 1)))) more)
  else if c = '"' then
    match quoteEnd cs with
    | some n => .ok (.first (.lexeme (.quoted (String.ofList (unquote (cs.take (n - 1)))))) n)
    | none => .error .openQuote
  else if c = '<' then
    match angleEnd 0 cs with
    | some n => .ok (.first (.lexeme (.angle (String.ofList (cs.take (n - 1))))) n)
    | none => .error .openAngle
  else if "\x7b\x7d[];,=:+".toList.contains c then .ok (.first (.lexeme (.mark c)) 0)
  else .error (.strayCharacter c)

/-- Whether a line has still to begin after a piece. -/
def Piece.lineStart (before : Bool) : Piece → Bool
  | .newline => true
  | .blank | .directive => before
  | .comment | .lexeme _ => false

def Piece.lexeme? : Piece → Option Lexeme
  | .lexeme l => some l
  | _ => none

/-! ## Tokens -/

/-- The tokens of a text that stands at a position. -/
def tokensFrom (lineStart : Bool) (position : Position) : List Char → Except Fault (List Token)
  | [] => .ok []
  | c :: cs =>
    match cut lineStart c cs with
    | .error complaint => .error ⟨complaint, position⟩
    | .ok piece =>
      have := piece.positive
      let here := (piece.piece.lexeme?.map fun l => Token.mk l position).toList
      let after := position.advance ((c :: cs).take piece.length)
      (tokensFrom (piece.piece.lineStart lineStart) after ((c :: cs).drop piece.length)).map
        (here ++ ·)
termination_by cs => cs.length
decreasing_by simp only [List.length_drop, List.length_cons]; omega

/-- The tokens of a text. -/
def tokens (text : String) : Except Fault (List Token) :=
  tokensFrom true .start text.toList

end StateTraces.Dot
