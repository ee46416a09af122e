import StateTraces.Console.Wrap
import StateTraces.Number.Binary64

/-
Tables without lines, in a number of columns of the screen. A table is as wide as its texts ask for,
with a blank on both sides of every cell. If that is too wide, the widest columns are made narrower
until it fits, and their texts are broken or cut.
-/

namespace StateTraces.Console

/-- A column of a table: its fixed width or the least one, both without the blanks around. -/
structure GridColumn where
  fixed : Option Nat := none
  least : Nat := 0

/-- The blanks on both sides of a cell. -/
def cellPadding : Nat := 2

/-- A character that ends a line when a text is measured. -/
def endsMeasuredLine (c : Char) : Bool :=
  let n := c.toNat
  (10 ≤ n && n ≤ 13) || (28 ≤ n && n ≤ 30) || n == 0x85 || n == 0x2028 || n == 0x2029

/-- The columns of the widest line of a text; tabs take none. -/
def measure (text : List Char) : Nat :=
  ((splitAt endsMeasuredLine text).map Text.width).foldl max 0

/-- The width that the texts of a column ask for, up to `most`. -/
def GridColumn.measure (column : GridColumn) (most : Nat) (texts : List (List Char)) : Nat :=
  match column.fixed with
  | some n => min most (n + cellPadding)
  | none =>
    let asked := (texts.map fun t => min most (Console.measure t + cellPadding)).foldl max 0
    let asked := if column.least = 0 then asked else max asked (column.least + cellPadding)
    if asked = 0 then 1 else asked

/-- `ratio` of the `total` parts of a number, rounded to the nearest one. -/
def share (ratio total n : Nat) : Nat := Binary64.roundDiv (ratio * n) total

/-- Takes `excess` from widths, in proportion to their ratios and up to a maximum for each. -/
def reduce (excess total : Nat) : List (Nat × Nat × Nat) → List Nat
  | [] => []
  | (ratio, most, width) :: rest =>
    if ratio = 0 ∨ total = 0 then width :: reduce excess total rest
    else
      let part := min most (share ratio total excess)
      (width - part) :: reduce (excess - part) (total - ratio) rest

/-- The widths after the widest ones of those that may be narrowed have come down to the next lower
one, or as far as needed; `none` if that is not possible. -/
def narrow? (flexible : List Bool) (excess : Nat) (widths : List Nat) : Option (List Nat) :=
  let own := List.zipWith (fun w f => if f then w else 0) widths flexible
  let top := own.foldl max 0
  let second := (own.filter (· ≠ top)).foldl max 0
  let step := min excess (top - second)
  let ratios := own.map fun w => if w = top ∧ w ≠ 0 then 1 else 0
  if step = 0 then none
  else some (reduce excess (ratios.foldl (· + ·) 0)
    (List.zipWith (fun r w => (r, step, w)) ratios widths))

/-- Narrows widths until they fit into `most` columns together. -/
def collapse (flexible : List Bool) (most : Nat) : Nat → List Nat → List Nat
  | 0, widths => widths
  | fuel + 1, widths =>
    let total := widths.foldl (· + ·) 0
    if total ≤ most then widths
    else match narrow? flexible (total - most) widths with
      | none => widths
      | some narrowed => collapse flexible most fuel narrowed

/-- The widths of the columns of a table with these rows, in `most` columns of the screen. -/
def gridWidths (columns : List GridColumn) (most : Nat) (rows : List (List (List Char))) :
    List Nat :=
  let texts := (List.range columns.length).map fun i => rows.map (·.getD i [])
  let measured (limits : List Nat) :=
    List.zipWith (fun (c : GridColumn × List (List Char)) limit => c.1.measure limit c.2)
      (columns.zip texts) limits
  let widths := measured (columns.map fun _ => most)
  let total := widths.foldl (· + ·) 0
  if total ≤ most then widths
  else
    let narrowed := collapse (columns.map (·.fixed.isNone)) most (total + 1) widths
    let total := narrowed.foldl (· + ·) 0
    measured (if total ≤ most then narrowed
      else reduce (total - most) narrowed.length (narrowed.map fun w => (1, w, w)))

/-- The lines of a row; the texts of a line stand beside each other. -/
def gridRow (widths : List Nat) (row : List (List Char)) : List (List (List Char)) :=
  let cells := List.zipWith (fun w t => wrap .ellipsis (w - cellPadding) t) widths row
  let height := (cells.map List.length).foldl max 1
  (List.range height).map fun i => cells.map (·.getD i [])

/-- The lines of a table. -/
def gridLines (columns : List GridColumn) (most : Nat) (rows : List (List (List Char))) :
    List (List (List Char)) :=
  rows.flatMap (gridRow (gridWidths columns most rows))

end StateTraces.Console
