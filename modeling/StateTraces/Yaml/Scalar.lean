import StateTraces.Table
import StateTraces.Yaml.Fault

/-
The texts of scalars. Quoted and plain scalars may run over several lines: the blanks around a line
end are dropped, a single line end becomes a space, and of several the first is dropped. A block
scalar keeps its lines, or folds them in the same way where neither neighbour starts with a blank.
-/

namespace StateTraces.Yaml

/-! ## Characters -/

def isBreak (c : Char) : Bool :=
  c == '\n' || c == '\r' || c == '\x85' || c == '\u2028' || c == '\u2029'

def isSpace (c : Char) : Bool := c == ' ' || c == '\t'

/-- Whether a token ends before the rest of the text. -/
def atGap (cs : List Char) : Bool := cs.head?.all fun c => isSpace c || isBreak c

/-- Whether a line starts or ends a document. -/
def atDocumentMark (cs : List Char) : Bool :=
  (cs.take 3 == "---".toList || cs.take 3 == "...".toList) && atGap (cs.drop 3)

/-- A line end in the text of a scalar. -/
def breakChar (c : Char) : Char := if c == '\u2028' || c == '\u2029' then c else '\n'

/-! ## Folding -/

/-- What stands between two words: spaces on one line, a line end with more of them, or line ends
after the first one was escaped. -/
inductive Fold where
  | spaces (text : List Char)
  | lines (first : Char) (more : List Char)
  | escaped (more : List Char)

namespace Fold

def space (c : Char) : Fold → Fold
  | .spaces text => .spaces (text ++ [c])
  | f => f

def newline (c : Char) : Fold → Fold
  | .spaces _ => .lines (breakChar c) []
  | .lines first more => .lines first (more ++ [breakChar c])
  | .escaped more => .escaped (more ++ [breakChar c])

/-- Whether there is a gap at all. -/
def apart : Fold → Bool
  | .spaces text => text ≠ []
  | _ => true

/-- Whether a line ended. -/
def crossed : Fold → Bool
  | .spaces _ => false
  | _ => true

/-- The text that the gap becomes. -/
def text : Fold → List Char
  | .spaces text => text
  | .lines first more => if first ≠ '\n' then first :: more else if more = [] then [' '] else more
  | .escaped more => more

end Fold

/-! ## Quoted scalars -/

/-- What a single character after a backslash stands for. -/
def escapes : Table Char Char :=
  [('0', '\x00'), ('a', '\x07'), ('b', '\x08'), ('t', '\t'), ('\t', '\t'), ('n', '\n'),
    ('v', '\x0b'), ('f', '\x0c'), ('r', '\r'), ('e', '\x1b'), (' ', ' '), ('"', '"'),
    ('\\', '\\'), ('/', '/'), ('N', '\x85'), ('_', '\xa0'), ('L', '\u2028'), ('P', '\u2029')]

/-- How many hexadecimal digits follow a character after a backslash. -/
def codeLength : Char → Nat
  | 'x' => 2
  | 'u' => 4
  | 'U' => 8
  | _ => 0

def hexValue? (c : Char) : Option Nat :=
  if '0' ≤ c ∧ c ≤ '9' then some (c.toNat - 48)
  else if 'a' ≤ c ∧ c ≤ 'f' then some (c.toNat - 87)
  else if 'A' ≤ c ∧ c ≤ 'F' then some (c.toNat - 55)
  else none

/-- Where a double-quoted scalar stands: in its text, after a backslash, or before the last digits
of a character code. -/
inductive QuoteState where
  | text (fold : Fold)
  | escape
  | code (left value : Nat)

/-- The character with a code. A text holds no surrogates. -/
def characterOf (code : Nat) : Except Fault Char :=
  if 0x80000000 ≤ code then .error .tooLarge
  else if 0x110000 ≤ code then .error (.quantity "chr() arg not in range(0x110000)")
  else if code.isValidChar then .ok (Char.ofNat code)
  else .error .surrogate

/-- A text put in front of what is read next. -/
def ahead (before : List Char) (r : Except Fault (List Char × List Char)) :
    Except Fault (List Char × List Char) :=
  r.map fun r => (before ++ r.1, r.2)

/-- The text of a double-quoted scalar up to its closing quote, and the text after it. -/
def doubleQuoted : QuoteState → List Char → Except Fault (List Char × List Char)
  | _, [] => .error .token
  | .escape, c :: cs =>
    match escapes.get? c with
    | some d => ahead [d] (doubleQuoted (.text (.spaces [])) cs)
    | none =>
      if 0 < codeLength c then doubleQuoted (.code (codeLength c) 0) cs
      else if isBreak c ∧ !atDocumentMark cs then doubleQuoted (.text (.escaped [])) cs
      else .error .token
  | .code left value, c :: cs =>
    match hexValue? c with
    | none => .error .token
    | some d =>
      if left ≤ 1 then
        (characterOf (value * 16 + d)).bind fun c =>
          ahead [c] (doubleQuoted (.text (.spaces [])) cs)
      else doubleQuoted (.code (left - 1) (value * 16 + d)) cs
  | .text fold, c :: cs =>
    if isSpace c then doubleQuoted (.text (fold.space c)) cs
    else if isBreak c then
      if atDocumentMark cs then .error .token else doubleQuoted (.text (fold.newline c)) cs
    else if c = '"' then .ok (fold.text, cs)
    else if c = '\\' then ahead fold.text (doubleQuoted .escape cs)
    else ahead (fold.text ++ [c]) (doubleQuoted (.text (.spaces [])) cs)

/-- The text of a single-quoted scalar up to its closing quote, and the text after it. A quote
inside is written twice. -/
def singleQuoted (fold : Fold) : List Char → Except Fault (List Char × List Char)
  | [] => .error .token
  | '\'' :: '\'' :: cs => ahead (fold.text ++ ['\'']) (singleQuoted (.spaces []) cs)
  | '\'' :: cs => .ok (fold.text, cs)
  | c :: cs =>
    if isSpace c then singleQuoted (fold.space c) cs
    else if isBreak c then
      if atDocumentMark cs then .error .token else singleQuoted (fold.newline c) cs
    else ahead (fold.text ++ [c]) (singleQuoted (.spaces []) cs)

/-! ## Plain scalars -/

def isFlowMark (c : Char) : Bool := ",[]\x7b\x7d".toList.contains c

/-- Whether a plain scalar may start here. -/
def startsPlain (inFlow : Bool) : List Char → Bool
  | [] => false
  | c :: cs =>
    !(isSpace c || isBreak c || "-?:,[]\x7b\x7d#&*!|>'\"%@\x60".toList.contains c) ||
      (!atGap cs && (c == '-' || (!inFlow && (c == '?' || c == ':'))))

/-- Whether a plain scalar ends before a character, by what follows it. -/
def endsPlain (inFlow : Bool) (c : Char) (cs : List Char) : Bool :=
  c == '\t' || (c == ':' && (atGap cs || (inFlow && cs.head?.any isFlowMark))) ||
    (inFlow && (c == '?' || isFlowMark c))

/-- A plain scalar: its text, whether a line ended after its last word, and the text after it and
the gap behind it. -/
structure PlainText where
  text : List Char
  crossed : Bool
  rest : List Char

/-- The plain scalar at the start of a text. In blocks every line of it has to start at the column
`least` or later. -/
def plain (inFlow : Bool) (least : Nat) (fold : Fold) (column : Nat) : List Char → PlainText
  | [] => ⟨[], fold.crossed, []⟩
  | c :: cs =>
    let outside := fold.crossed && !inFlow && decide (column < least)
    if c = ' ' then plain inFlow least (fold.space c) (column + 1) cs
    else if isBreak c then
      if atDocumentMark cs then ⟨[], true, cs⟩ else plain inFlow least (fold.newline c) 0 cs
    else if (c == '#' && fold.apart) || outside || endsPlain inFlow c cs then
      ⟨[], fold.crossed, c :: cs⟩
    else
      let r := plain inFlow least (.spaces []) column cs
      { r with text := fold.text ++ c :: r.text }

/-! ## Block scalars -/

/-- What a block scalar does with the line ends after its last line. -/
inductive Chomping where
  | strip
  | clip
  | keep
  deriving DecidableEq

/-- A line: what stands on it, and the line end after it if there is one. -/
structure Line where
  text : List Char
  ending : Option Char

/-- The lines of a text. -/
def linesOf : List Char → List Line
  | [] => []
  | c :: cs =>
    if isBreak c then ⟨[], some (breakChar c)⟩ :: linesOf cs
    else match linesOf cs with
      | line :: lines => { line with text := c :: line.text } :: lines
      | [] => [⟨[c], none⟩]

/-- The header of a block scalar after its first character: what it does at the end, and the
indentation if it is stated. -/
def blockHeader? (cs : List Char) : Option (Chomping × Option Nat) :=
  let chomping (c : Char) : Option Chomping :=
    if c = '+' then some .keep else if c = '-' then some .strip else none
  let width (c : Char) : Option Nat :=
    if '1' ≤ c ∧ c ≤ '9' then some (c.toNat - 48) else none
  let marks := cs.takeWhile fun c => !isSpace c
  let after := (cs.drop marks.length).dropWhile (· == ' ')
  let rest := after.isEmpty || after.head? == some '#'
  match marks with
  | [] => if rest then some (.clip, none) else none
  | [a] => if rest then
      ((chomping a).map fun k => (k, none)) <|> ((width a).map fun w => (.clip, some w)) else none
  | [a, b] => if rest then
      (do pure (← chomping a, some (← width b))) <|> (do pure (← chomping b, some (← width a)))
      else none
  | _ => none

def leadingSpaces (cs : List Char) : Nat := (cs.takeWhile (· == ' ')).length

/-- The column of the first line with content, unless a blank line before it is longer. -/
def blockColumn (lines : List Line) : Nat :=
  let blank := lines.takeWhile fun l => l.text.all (· == ' ')
  let first := (lines.drop blank.length).head?.toList
  (blank ++ first).foldl (fun n l => max n (leadingSpaces l.text)) 0

/-- The lines of a block scalar without their indentation. -/
def blockLines (indent : Nat) : List Line → List Line
  | [] => []
  | l :: lines =>
    let own := l.text.drop (min indent (leadingSpaces l.text))
    if (indent ≤ leadingSpaces l.text ∧ own ≠ []) ∨ (own = [] ∧ l.ending.isSome) then
      { l with text := own } :: blockLines indent lines
    else []

/-- What stands between two lines with content, where the ends of blank lines come after the first
one. Folding drops its end, or makes it a space, unless one of both starts with a blank. -/
def blockGap (folded : Bool) (before after : Line) (blank : List Char) : List Char :=
  let word (l : Line) := !l.text.head?.any isSpace
  if folded && before.ending == some '\n' && word before && word after then
    if blank = [] then [' '] else blank
  else before.ending.toList ++ blank

/-- The text of the lines after `before`, the last line with content if there was one, and the ends
of the blank lines since then. -/
def blockText (folded : Bool) (chomping : Chomping) (before : Option Line) (blank : List Char) :
    List Line → List Char
  | [] =>
    let last := before.bind (·.ending)
    match chomping with
    | .strip => []
    | .clip => last.toList
    | .keep => last.toList ++ blank
  | l :: lines =>
    if l.text = [] then blockText folded chomping before (blank ++ l.ending.toList) lines
    else
      let gap := before.elim blank fun b => blockGap folded b l blank
      gap ++ l.text ++ blockText folded chomping (some l) [] lines

/-- The text of a block scalar and the text after it, from the character that announces it. The
lines are indented by `least` at least. -/
def blockScalar (least : Nat) : List Char → Except Fault (List Char × List Char)
  | [] => .error .token
  | mark :: cs =>
    let header := cs.takeWhile (!isBreak ·)
    match blockHeader? header with
    | none => .error .token
    | some (chomping, width) =>
      let rest := (cs.drop header.length).drop 1
      let lines := linesOf rest
      let least := max 1 least
      let indent := match width with
        | some w => least + w - 1
        | none => max least (blockColumn lines)
      let own := blockLines indent lines
      let length := (lines.take own.length).foldl (fun n l => n + l.text.length + 1) 0
      .ok (blockText (mark == '>') chomping none [] own, rest.drop length)

end StateTraces.Yaml
