import StateTraces.Feed
import StateTraces.Text.Numeral

/-
Subsets of a list, by position. The subsets of one size come in lexicographic order of their
positions, and the non-empty subsets of all sizes come smaller sizes first. Sizes and counts asked
for from outside are integers and are checked; a list without elements has no subset of any size.
Subsets are only listed for so many positions as a machine word counts, and numbers of subsets are
only written if they are not too long.
-/

namespace StateTraces.Subset

variable {α : Type}

/-- The subsets with `k` elements, each in the order of the list, in lexicographic order of
positions. -/
def ofSize : Nat → List α → Feed (List α)
  | 0, _ => .one []
  | _ + 1, [] => .done
  | k + 1, x :: xs =>
    if xs.length < k then .done
    else ((ofSize k xs).map (x :: ·)).append fun _ => ofSize (k + 1) xs

/-- The non-empty subsets, smaller sizes first. -/
def nonEmpty (xs : List α) : Feed (List α) :=
  (Feed.ofList (List.range' 1 xs.length)).flatMap fun k => ofSize k xs

/-- The number of subsets with `k` of `n` elements: a product of `k` factors, each step of which
divides evenly. -/
def binomial (n k : Nat) : Nat :=
  (List.range (min k (n - k))).foldl (fun acc i => acc * (n - i) / (i + 1)) 1

/-! ## Requests -/

/-- A request for subsets that cannot be met: it makes no sense, more is asked for than a machine
word counts or memory holds, or the answer is too long to be written. -/
inductive Refusal where
  | negativeCount (count : Int)
  | sizeOutOfRange (count size : Int)
  | negativeDegree (degree : Int)
  | beyondWord
  | beyondMemory
  | tooLong
  deriving DecidableEq, Repr

namespace Refusal

def kind : Refusal → String
  | .beyondWord => "OverflowError"
  | .beyondMemory => "MemoryError"
  | _ => "ValueError"

/-- A message that tells an integer; one that is too long is itself told in its place. -/
def telling (n : Int) (message : String → String) : String :=
  (Text.writeInteger? n).elim Text.tooLongToWrite message

/-- What the refusal says, where that is of use. -/
def message? : Refusal → Option String
  | .negativeCount n => some (telling n fun n => s!"Element count must be non-negative, got {n}")
  | .sizeOutOfRange n k => some (telling n fun n => telling k fun k =>
      s!"Subset size must be between 1 and {n}, got {k}")
  | .negativeDegree d => some (telling d fun d => s!"Degree must be non-negative, got {d}")
  | .beyondWord | .beyondMemory => none
  | .tooLong => some Text.tooLongToWrite

end Refusal

/-- A count and a size that can be met: no element and any size, or a size from one to the count. -/
def check (count size : Int) : Except Refusal Unit :=
  if count < 0 then .error (.negativeCount count)
  else if count ≠ 0 ∧ ¬ (1 ≤ size ∧ size ≤ count) then .error (.sizeOutOfRange count size)
  else .ok ()

/-- The subsets of the positions below `count` that have `size` elements. -/
def positions (count size : Int) : Except Refusal (Feed (List Nat)) := do
  check count size
  if count = 0 then pure .done
  else pure (ofSize size.toNat (List.range count.toNat))

/-- The number of subsets of positions with `size` elements. -/
def count (n size : Int) : Except Refusal Nat := do
  check n size
  if n = 0 then pure 0 else pure (binomial n.toNat size.toNat)

/-- The number of non-empty subsets of the out-edges of a vertex: all sizes together, the number for
a size made from the one for the size before it. -/
def choiceCount (degree : Nat) : Nat :=
  ((List.range degree).foldl (fun (acc : Nat × Nat) i =>
    let ofNext := acc.1 * (degree - i) / (i + 1)
    (ofNext, acc.2 + ofNext)) (1, 0)).2

/-- The number of non-empty subsets of `degree` elements, for a degree given as an integer. -/
def countChoices (degree : Int) : Except Refusal Nat :=
  if degree < 0 then .error (.negativeDegree degree) else .ok (choiceCount degree.toNat)

/-! ## Limits -/

/-- The greatest number that a machine word holds. -/
def greatestWord : Int := 0x7fffffffffffffff

/-- The subsets of positions, if a machine word counts the positions. -/
def listed (count size : Int) : Except Refusal (Feed (List Nat)) := do
  check count size
  if greatestWord < count then throw .beyondWord
  positions count size

/-- The subsets of positions on a machine with room for `room` positions. -/
def pooled (room count size : Int) : Except Refusal (Feed (List Nat)) := do
  check count size
  if room < count ∧ count ≤ greatestWord then throw .beyondMemory
  listed count size

/-- The room that a machine has where nothing is said about it. -/
def usualRoom : Int := 10000000000

/-- The first subsets of positions, at most `limit` of them. A request for none is not checked. -/
def firstPositions (count size : Int) (limit : Option Nat) (room : Int := usualRoom) :
    Except Refusal (List (List Nat)) :=
  match limit with
  | none => (pooled room count size).map Feed.toList
  | some 0 => .ok []
  | some (n + 1) => (pooled room count size).map fun f => (f.take (n + 1)).toList

/-- Every subset of the outer request with every subset of the inner one. The inner request is
made once for each outer subset, so it is checked only if there is one. -/
def positionPairs (outer inner : Int × Int) (room : Int := usualRoom) :
    Except Refusal (List (List Nat × List Nat)) := do
  let outerSubsets ← pooled room outer.1 outer.2
  let groups ← outerSubsets.toList.mapM fun s =>
    (pooled room inner.1 inner.2).map fun f => f.toList.map fun t => (s, t)
  pure groups.flatten

/-- A number of subsets as a text. -/
def written (n : Nat) : Except Refusal String :=
  (Text.writeInteger? n).elim (.error .tooLong) .ok

/-- The number of subsets with `size` elements. Of the size and the number of elements that are left
out, one has to fit into a machine word, unless all elements do. -/
def counted (n size : Int) : Except Refusal Nat := do
  check n size
  if greatestWord < n ∧ greatestWord < size ∧ greatestWord < n - size then throw .beyondWord
  count n size

/-- The number of subsets with `size` elements as a text. -/
def countText (n size : Int) : Except Refusal String := do
  written (← counted n size)

/-- The number of non-empty subsets of `degree` elements as a text. -/
def choicesText (degree : Int) : Except Refusal String := do
  written (← countChoices degree)

end StateTraces.Subset
