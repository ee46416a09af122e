import StateTraces.Text.LowerCase

/-
Name patterns: a star stands for any characters, a question mark for one, and a set in brackets for
one character that is in it or, after an exclamation mark, not in it. An opening bracket that is
never closed stands for itself. Letter case does not count.

The text of a set is cut into chunks at the hyphens that make ranges: the last character of a chunk
and the first one of the next are the ends of a range. Where the ends are in the wrong order both
are dropped, and what is left of the two chunks becomes one.
-/

namespace StateTraces.Files

/-- A character of a set, or the characters between two ends. -/
inductive SetItem where
  | one (c : Char)
  | range (first last : Char)
  deriving DecidableEq, Repr

/-- An element of a pattern. -/
inductive PatternItem where
  | literal (c : Char)
  | anyOne
  | anyRun
  | set (negated : Bool) (items : List SetItem)
  deriving DecidableEq, Repr

namespace SetItem

def holds (c : Char) : SetItem → Bool
  | .one d => c == d
  | .range first last => first ≤ c && c ≤ last

/-- The items of chunks, where `open?` is the first end of a range that a hyphen has begun. -/
def ofChunks (open? : Option Char) : List (List Char) → List SetItem
  | [] => []
  | chunk :: chunks =>
    let own := match open?, chunk with
      | some first, last :: cs => .range first last :: cs.map .one
      | _, cs => cs.map .one
    match chunks, chunk.getLast? with
    | [], _ => own
    | _, none => .one '-' :: ofChunks none chunks
    | _, some last => own ++ ofChunks (some last) chunks

end SetItem

namespace PatternItem

/-- The text of a set up to its closing bracket, and what follows. A bracket that stands first, or
first after the exclamation mark, belongs to the set. -/
def cutSet (cs : List Char) : Option (List Char × List Char) :=
  let head := match cs with
    | '!' :: ']' :: _ => 2
    | '!' :: _ => 1
    | ']' :: _ => 1
    | _ => 0
  let body := (cs.drop head).takeWhile (· != ']')
  match (cs.drop head).drop body.length with
  | ']' :: rest => some (cs.take head ++ body, rest)
  | _ => none

/-- Cuts the text of a set at the hyphens that make ranges: after the first character, and after
two more characters from then on. The `lead` characters at the front of a chunk hold no cut. -/
def chunks (lead : Nat) : List Char → List (List Char)
  | [] => [[]]
  | c :: cs =>
    match lead, c with
    | 0, '-' => [] :: chunks 2 cs
    | _, _ =>
      match chunks (lead - 1) cs with
      | [] => [[c]]
      | chunk :: more => (c :: chunk) :: more

/-- A hyphen at the end makes no range. -/
def closeChunks : List (List Char) → List (List Char)
  | [] => []
  | [chunk, []] => [chunk ++ ['-']]
  | chunk :: more => chunk :: closeChunks more

/-- The chunks with those put together between which the ends of a range are in the wrong order,
the last ones first. -/
def joinChunks : List (List Char) → List (List Char)
  | [] => []
  | chunk :: more =>
    match joinChunks more, chunk.getLast? with
    | (first :: next) :: rest, some last =>
      if first < last then (chunk.dropLast ++ next) :: rest else chunk :: (first :: next) :: rest
    | rest, _ => chunk :: rest

/-- The set that the text between brackets writes. -/
def ofSet (cs : List Char) : PatternItem :=
  let lead := if cs.head? = some '!' then 2 else 1
  match joinChunks (closeChunks (chunks lead cs)) with
  | ('!' :: cs) :: more => .set true (SetItem.ofChunks none (cs :: more))
  | chunks => .set false (SetItem.ofChunks none chunks)

theorem cutSet_length {cs body rest : List Char} (h : cutSet cs = some (body, rest)) :
    rest.length < cs.length := by
  unfold cutSet at h
  dsimp only at h
  split at h
  · rename_i r e
    simp only [Option.some.injEq, Prod.mk.injEq] at h
    have := congrArg List.length e
    simp only [List.length_drop, List.length_cons, h.2] at this
    omega
  · simp at h

/-- The elements of a pattern. -/
def ofChars : List Char → List PatternItem
  | [] => []
  | c :: cs =>
    if c = '*' then .anyRun :: ofChars cs
    else if c = '?' then .anyOne :: ofChars cs
    else if c = '[' then
      match h : cutSet cs with
      | some (body, rest) =>
        have := cutSet_length h
        ofSet body :: ofChars rest
      | none => .literal c :: ofChars cs
    else .literal c :: ofChars cs
termination_by cs => cs.length

/-- Whether a character is what the element asks for. -/
def admits (c : Char) : PatternItem → Bool
  | .literal d => c == d
  | .anyOne => true
  | .anyRun => false
  | .set negated items => items.any (·.holds c) != negated

/-- For the whole text and every rest of it, whether the elements make it up. -/
def fitsRests : List PatternItem → List Char → List Bool
  | [], cs => cs.map (fun _ => false) ++ [true]
  | .anyRun :: items, cs =>
    (fitsRests items cs).foldr (fun fit later => (fit || later.headD false) :: later) []
  | item :: items, cs =>
    List.zipWith (fun c fit => item.admits c && fit) cs ((fitsRests items cs).drop 1) ++ [false]

/-- Whether the elements, one after another, make up the whole text. -/
def fits (items : List PatternItem) (cs : List Char) : Bool := (fitsRests items cs).headD false

end PatternItem

/-- Whether a name fits a pattern. -/
def matchesPattern (name pattern : String) : Bool :=
  PatternItem.fits (PatternItem.ofChars (Text.lower pattern).toList) (Text.lower name).toList

end StateTraces.Files
