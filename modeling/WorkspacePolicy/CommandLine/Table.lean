/-
# CommandLine.Table — tables on a terminal

A table has a header row, rows of cells and maybe a title, which stands centred above
it. A blank stands on both sides of every line of a cell. A line that is wider than its
column is broken in front of words. A cell of several lines makes its row as high; in the
header shorter cells stand at the bottom and in the other rows at the top. What is wider
than the terminal is cut off.
-/
import WorkspacePolicy.CommandLine.ColumnWidth
import WorkspacePolicy.CommandLine.Markup

namespace WorkspacePolicy

set_option autoImplicit false

/-- A table of texts. -/
structure Table where
  title : Option String
  header : List String
  rows : List (List String)

namespace Table

/-- The characters of the cells in the column with the given index, the header first. -/
def columnCells (t : Table) (n : Nat) : List (List Char) :=
  (t.header :: t.rows).map fun row => Markup.stripControls ((row[n]?).getD "").toList

/-- The widths of all columns between their bars. -/
def widths (t : Table) : List Nat :=
  ColumnWidth.fit (Terminal.width - (t.header.length + 1))
    ((List.range t.header.length).map t.columnCells)

/-- Blanks in a row. -/
def blanks (width : Nat) : List Char := List.replicate width ' '

/-- A rule between rows: its left end, its line, its crossings and its right end. -/
structure Rule where
  left : Char
  line : Char
  crossing : Char
  right : Char

/-- The rules above the header, below the header and below the last row. -/
def topRule : Rule := ⟨'┏', '━', '┳', '┓'⟩

def headerRule : Rule := ⟨'┡', '━', '╇', '┩'⟩

def bottomRule : Rule := ⟨'└', '─', '┴', '┘'⟩

/-- The line of a rule. -/
def ruleLine (rule : Rule) (widths : List Nat) : List Char :=
  let spans := widths.map fun width => List.replicate width rule.line
  rule.left :: Text.joined [rule.crossing] spans ++ [rule.right]

/-- The lines of a cell, each as wide as the column; a column without room for more than its
blanks shows none. -/
def cellLines (width : Nat) (cell : String) : List (List Char) :=
  if width < 3 then []
  else
    let lines := Text.pieces '\n' (Markup.stripControls cell.toList)
    (lines.flatMap (Text.wrap false (width - 2))).map fun line =>
      ' ' :: Text.setWidth (width - 2) line ++ [' ']

/-- Makes a cell as high as its row. -/
def raise (atBottom : Bool) (height width : Nat) (lines : List (List Char)) :
    List (List Char) :=
  let missing := List.replicate (height - lines.length) (blanks width)
  if atBottom then missing ++ lines else lines ++ missing

/-- One line of a row: a line of every cell between bars. -/
def rowLine (bar : Char) (lines : List (List Char)) : List Char :=
  bar :: lines.flatMap (· ++ [bar])

/-- All lines of a row. -/
def rowLines (bar : Char) (atBottom : Bool) (widths : List Nat) (row : List String) :
    List (List Char) :=
  let cells := (widths.zip row).map fun (width, cell) => (width, cellLines width cell)
  let height := (cells.map (·.2.length)).foldl max 1
  let raised := cells.map fun (width, lines) => raise atBottom height width lines
  (List.range height).map fun n => rowLine bar (raised.map fun lines => (lines[n]?).getD [])

/-- The line of the title over a table of the given width. -/
def titleLine (width : Nat) (title : String) : List Char :=
  let left := (width - Text.lineWidth title.toList) / 2
  Text.setWidth width (blanks left ++ title.toList)

/-- The lines of a table with columns. -/
def lines (t : Table) : List (List Char) :=
  let widths := t.widths
  let whole := ruleLine bottomRule widths
  (t.title.map (titleLine whole.length)).toList ++
    [ruleLine topRule widths] ++ rowLines '┃' true widths t.header ++
    [ruleLine headerRule widths] ++ t.rows.flatMap (rowLines '│' false widths) ++ [whole]

/-- The text of a table; without columns it is an empty line. -/
def text (t : Table) : String :=
  if t.header.isEmpty then "\n"
  else
    String.ofList (t.lines.flatMap fun line => Text.limit false Terminal.width line ++ ['\n'])

end Table

end WorkspacePolicy
