/-
How alike two texts are: the longest run of characters that both have, and so on in what lies before
it and after it. Of several longest runs the first one counts. Two texts are similar when the
characters in these runs make up three fifths of both texts.
-/

namespace StateTraces.Text

/-- The length of what two texts both begin with. -/
def commonStart : List Char → List Char → Nat
  | a :: as, b :: bs => if a = b then commonStart as bs + 1 else 0
  | _, _ => 0

/-- A run that two texts share: where it starts in either, and its length. -/
structure Run where
  left : Nat
  right : Nat
  length : Nat

/-- The longest run that two texts share. -/
def longestRun (as bs : List Char) : Run :=
  let starts := (List.range as.length).flatMap fun i => (List.range bs.length).map fun j => (i, j)
  starts.foldl (fun best s =>
    let length := commonStart (as.drop s.1) (bs.drop s.2)
    if best.length < length then ⟨s.1, s.2, length⟩ else best) ⟨0, 0, 0⟩

/-- The number of characters in the shared runs, with at most `fuel` of them on a line of
descent. -/
def sharedCount : Nat → List Char → List Char → Nat
  | 0, _, _ => 0
  | fuel + 1, as, bs =>
    let run := longestRun as bs
    if run.length = 0 then 0
    else run.length + sharedCount fuel (as.take run.left) (bs.take run.right) +
      sharedCount fuel (as.drop (run.left + run.length)) (bs.drop (run.right + run.length))

/-- The number of characters in the shared runs of two texts. -/
def shared (a b : String) : Nat := sharedCount a.length a.toList b.toList

/-- Whether a candidate is similar to a text. -/
def isSimilar (s candidate : String) : Bool :=
  3 * (s.length + candidate.length) ≤ 10 * shared candidate s

/-- Whether the first candidate is more like a text than the second one, or as much and later in
the alphabet. -/
def isCloser (s a b : String) : Bool :=
  let x := shared a s * (s.length + b.length)
  let y := shared b s * (s.length + a.length)
  y < x || (x == y && b ≤ a)

/-- The three candidates that are most similar to a text, in alphabetical order. -/
def similar (s : String) (candidates : List String) : List String :=
  (((candidates.filter (isSimilar s)).mergeSort (isCloser s)).take 3).mergeSort fun a b => a ≤ b

end StateTraces.Text
