/-
# CommandLine.ColumnWidth — how wide the columns of a table are

A column is as wide as its widest line and a blank on both sides, if the columns fit
between their bars on the terminal. Otherwise the widest columns become narrower, all by
the same part of what is too much, until they are as wide as the next ones; then these
become narrower too. Each column is at last not wider than its own lines need.
-/
import WorkspacePolicy.CommandLine.Terminal
import WorkspacePolicy.Number.Binary64

namespace WorkspacePolicy.ColumnWidth

set_option autoImplicit false

/-- A character after which a line ends where widths are measured. -/
def endsLine (c : Char) : Bool :=
  let n := c.toNat
  n == 10 || (0x1c ≤ n && n ≤ 0x1e) || n == 0x85 || n == 0x2028 || n == 0x2029

/-- The largest of some widths. -/
def largest (widths : List Nat) : Nat :=
  widths.foldl max 0

/-- The width of all columns together. -/
def total (widths : List Nat) : Nat :=
  widths.foldl (· + ·) 0

/-- The width of the widest line of a text. -/
def textWidth (text : List Char) : Nat :=
  let lines := Text.pieces '\n' (text.map fun c => if endsLine c then '\n' else c)
  largest (lines.map Text.lineWidth)

/-- The width of a cell with its two blanks, at most `limit`. -/
def cellWidth (limit : Nat) (text : List Char) : Nat :=
  if limit < 3 then limit else min (textWidth text + 2) limit

/-- The width that a column with the given cells wants, at most `limit`. -/
def wanted (limit : Nat) (cells : List (List Char)) : Nat :=
  largest (cells.map (cellWidth limit))

/-- Takes `excess` away from the widths that equal `wide`, of which `count` are left, in equal
parts, but at most `most` from one. -/
def reduce (wide most : Nat) : Nat → Nat → List Nat → List Nat
  | _, _, [] => []
  | excess, count, width :: widths =>
    if width = wide then
      let part := min most (Binary64.nearestWhole excess count)
      (width - part) :: reduce wide most (excess - part) (count - 1) widths
    else width :: reduce wide most excess count widths

/-- Makes the widest columns narrower until all fit into `room`; `fuel` bounds the rounds. -/
def narrow (room : Nat) : Nat → List Nat → List Nat
  | 0, widths => widths
  | fuel + 1, widths =>
    let excess := total widths - room
    let wide := largest widths
    let next := largest (widths.filter (· != wide))
    if excess = 0 ∨ wide = 0 then widths
    else narrow room fuel (reduce wide (min excess (wide - next)) excess (widths.count wide) widths)

/-- The widths of columns with the given cells in `room` cells. -/
def fit (room : Nat) (columns : List (List (List Char))) : List Nat :=
  let widths := columns.map fun cells => max 1 (wanted room cells)
  if total widths ≤ room then widths
  else ((narrow room (total widths) widths).zip columns).map fun (width, cells) =>
    wanted width cells

end WorkspacePolicy.ColumnWidth
