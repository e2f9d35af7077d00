import ExploitReplay.Console.Lines

/-!
# Tables on a terminal

A table has a title, a heading and two columns. A column is as wide as its widest cell, where tabs
count for nothing; a line that is too long for the column once its tabs are expanded is broken.

## Main definitions

* `Table`: a title, and rows of two cells, the first of them the heading
* `Table.cellWidth`, `Table.cellLines`: the columns that a cell asks for, and its lines in a column
* `Table.render t`: the lines of a table
-/

namespace ExploitReplay

/-- Two cells side by side. -/
abbrev Table.Row := List Char × List Char

/-- A title, a heading, and rows of two cells. -/
structure Table where
  title : List Char
  heading : Table.Row
  rows : List Table.Row
deriving DecidableEq, Repr

namespace Table

/-! ### Widths -/

/-- The characters that end a line where a cell is measured: the line ends of Unicode, and the
separator controls. -/
def endsMeasure (c : Char) : Bool :=
  ['\n', '\x0B', '\x0C', '\x0D', '\x1C', '\x1D', '\x1E', '\x85', '\u2028', '\u2029'].contains c

/-- The columns that a cell asks for: those of its widest line. -/
def cellWidth (cell : List Char) : Nat :=
  ((cell.splitOnP endsMeasure).map Text.columnsOf).foldl max 0

/-- The width of a column with these cells. -/
def columnWidth (cells : List (List Char)) : Nat :=
  (cells.map cellWidth).foldl max 0

/-- The width of the left column. -/
def leftWidth (t : Table) : Nat :=
  columnWidth ((t.heading :: t.rows).map (·.1))

/-- The width of the right column. -/
def rightWidth (t : Table) : Nat :=
  columnWidth ((t.heading :: t.rows).map (·.2))

/-- The width of the table: both columns, a blank on each side of them, and three lines. -/
def width (t : Table) : Nat :=
  t.leftWidth + t.rightWidth + 7

/-! ### Lines -/

/-- The lines of a cell in a column of a width. -/
def cellLines (w : Nat) (cell : List Char) : List (List Char) :=
  (cell.splitOn '\n').flatMap fun line =>
    (Line.broken List.singleton w (Line.expandTabs line)).map (Line.framed w)

/-- A text in the middle of a width; a blank that is left over comes after it. -/
def centred (w : Nat) (cs : List Char) : List Char :=
  let before := (w - Text.columnsOf cs) / 2
  Text.padded w (List.replicate before ' ' ++ cs)

/-- A line that separates rows, from its left end, its filling, its crossing and its right end. -/
def ruler (t : Table) (left fill cross right : Char) : List Char :=
  left :: List.replicate (t.leftWidth + 2) fill ++
    cross :: List.replicate (t.rightWidth + 2) fill ++ [right]

/-- One line of a row, between edges. -/
def rowLine (edge : Char) (left right : List Char) : List Char :=
  edge :: ' ' :: left ++ ' ' :: edge :: ' ' :: right ++ [' ', edge]

/-- The lines of a row, as many as its higher cell has. -/
def rowLines (t : Table) (edge : Char) (row : Row) : List (List Char) :=
  let left := cellLines t.leftWidth row.1
  let right := cellLines t.rightWidth row.2
  (List.range (max left.length right.length)).map fun i =>
    rowLine edge (left.getD i (Text.padded t.leftWidth []))
      (right.getD i (Text.padded t.rightWidth []))

/-- The lines of a table. -/
def lines (t : Table) : List (List Char) :=
  [centred t.width t.title, t.ruler '┏' '━' '┳' '┓'] ++ t.rowLines '┃' t.heading ++
    [t.ruler '┡' '━' '╇' '┩'] ++ t.rows.flatMap (t.rowLines '│') ++ [t.ruler '└' '─' '┴' '┘']

/-- The text of a table. -/
def render (t : Table) : String :=
  String.join (t.lines.map fun l => String.ofList l ++ "\n")

end Table

end ExploitReplay
