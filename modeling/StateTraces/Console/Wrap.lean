import StateTraces.Text.Blank
import StateTraces.Text.Split
import StateTraces.Text.Width

/-
Lines that fit into a number of columns. Tabs are filled up to columns of eight, and lines are
broken before words. A word that is longer than a line is folded, or cut with an ellipsis.
-/

namespace StateTraces.Console

open Text (Cluster isBlank)

/-! ## Tabs -/

/-- The parts of a line, each of which but the last one ends at a tab, with the tabs filled up to
the next column that eight divides. -/
def fillTabs (column : Nat) : List (List Char) → List Char
  | [] => []
  | [part] => part
  | part :: parts =>
    let column := column + Text.width (part ++ [' '])
    let gap := (8 - column % 8) % 8
    part ++ ' ' :: List.replicate gap ' ' ++ fillTabs (column + gap) parts

/-- The parts of a text between the characters that separate them. -/
def splitAt (separates : Char → Bool) : List Char → List (List Char)
  | [] => [[]]
  | c :: cs =>
    if separates c then [] :: splitAt separates cs
    else match splitAt separates cs with
      | part :: parts => (c :: part) :: parts
      | [] => [[c]]

/-- A line with its tabs filled up. -/
def withoutTabs (line : List Char) : List Char := fillTabs 0 (splitAt (· == '\t') line)

/-! ## Cutting -/

/-- The first clusters that take so many columns; a blank stands for a half one. -/
def cropClusters (columns : Nat) : List Cluster → List Char
  | [] => []
  | c :: cs =>
    if columns = 0 then []
    else if columns < c.columns then [' ']
    else c.chars ++ cropClusters (columns - c.columns) cs

/-- A line cut to a number of columns. -/
def crop (columns : Nat) (line : List Char) : List Char :=
  if Text.width line ≤ columns then line else cropClusters columns (Text.clusters line)

/-- Puts clusters on lines of `columns` columns, after `line`, which takes `used` of them. -/
def foldClusters (columns : Nat) (line : List Char) (used : Nat) : List Cluster → List (List Char)
  | [] => if used = 0 then [] else [line]
  | c :: cs =>
    if columns < used + c.columns then line :: foldClusters columns c.chars c.columns cs
    else foldClusters columns (line ++ c.chars) (used + c.columns) cs

/-- A word on as many lines as it needs. -/
def foldWord (columns : Nat) (word : List Char) : List (List Char) :=
  foldClusters columns [] 0 (Text.clusters word)

/-! ## Breaking -/

theorem length_dropWhile_le {p : Char → Bool} (cs : List Char) :
    (cs.dropWhile p).length ≤ cs.length := (List.dropWhile_suffix p).sublist.length_le

/-- The words of a line, each with the blanks behind it and the first one with those before it; a
line of blanks has none. -/
def wordsOf (cs : List Char) : List (List Char) :=
  match h : cs.dropWhile isBlank with
  | [] => []
  | c :: rest =>
    let word := (c :: rest).takeWhile (!isBlank ·)
    let behind := ((c :: rest).drop word.length).takeWhile isBlank
    let front := cs.takeWhile isBlank
    (front ++ word ++ behind) :: wordsOf (rest.drop (word.length + behind.length - 1))
termination_by cs.length
decreasing_by
  have := length_dropWhile_le (p := isBlank) cs
  rw [h, List.length_cons] at this
  rw [List.length_drop]
  omega

/-- What happens to a word that is longer than a line. -/
inductive Overflow where
  | fold
  | ellipsis
  deriving DecidableEq, Repr

/-- Lines under way: the finished ones in reverse order, the current one, and its columns. -/
structure Breaking where
  finished : List (List Char) := []
  current : List Char := []
  used : Nat := 0

/-- Starts a line with a text, unless nothing has been put on a line so far. -/
def Breaking.startLine (b : Breaking) (text : List Char) : Breaking where
  finished := if b.finished.isEmpty && b.current.isEmpty then [] else b.current :: b.finished
  current := text
  used := Text.width text

def withoutBlanksAtEnd (cs : List Char) : List Char := (cs.reverse.dropWhile isBlank).reverse

/-- Puts a word on the current line if it fits there, or else on the next one. -/
def Breaking.put (overflow : Overflow) (columns : Nat) (b : Breaking) (word : List Char) :
    Breaking :=
  let need := Text.width (withoutBlanksAtEnd word)
  if b.used + need ≤ columns then
    { b with current := b.current ++ word, used := b.used + Text.width word }
  else if columns < need ∧ overflow = .fold then
    (foldWord columns word).foldl Breaking.startLine b
  else b.startLine word

/-- A line without the blanks at its end that lie beyond the last column. -/
def rightCropped (columns : Nat) (line : List Char) : List Char :=
  let blanks := line.length - (withoutBlanksAtEnd line).length
  line.take (line.length - min blanks (line.length - columns))

/-- A line cut to the columns that there are. -/
def fitted (overflow : Overflow) (columns : Nat) (line : List Char) : List Char :=
  let line := rightCropped columns line
  if Text.width line ≤ columns then line
  else match overflow with
    | .fold => crop columns line
    | .ellipsis => crop (columns - 1) line ++ ['…']

/-- A line broken into lines that fit into so many columns. -/
def wrapLine (overflow : Overflow) (columns : Nat) (line : List Char) : List (List Char) :=
  let line := withoutTabs line
  let lines := match wordsOf line with
    | [] => [line]
    | words =>
      let b := words.foldl (Breaking.put overflow columns) {}
      (b.current :: b.finished).reverse
  lines.map (fitted overflow columns)

/-- The lines of a text, broken so that they fit into so many columns. -/
def wrap (overflow : Overflow) (columns : Nat) (text : List Char) : List (List Char) :=
  (splitAt (· == '\n') text).flatMap (wrapLine overflow columns)

end StateTraces.Console
