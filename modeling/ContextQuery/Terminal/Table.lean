import ContextQuery.Text.Width

/-!
# Tables

A table with a head row, framed by box-drawing characters. Each column is as wide as its widest
line; cells stand to the left, with a blank on both sides. A cell may have several lines.
-/

namespace ContextQuery.Terminal

/-- A table: a head, and rows with as many cells. -/
structure Table where
  head : List String
  rows : List (List String)

namespace Table

/-- The lines of a cell. -/
def cellLines (cell : String) : List String :=
  (cell.toList.splitOn '\n').map String.ofList

/-- The width of the widest line of a cell. -/
def cellWidth (cell : String) : Nat :=
  (cellLines cell).foldl (fun n line => max n (Text.width line)) 0

/-- The width of each column. -/
def widths (t : Table) : List Nat :=
  t.rows.foldl (fun ws row => List.zipWith max ws (row.map cellWidth)) (t.head.map cellWidth)

/-- A line of a cell in a column of the given width, with the blanks around it. -/
def padded (width : Nat) (line : String) : String :=
  " " ++ line ++ String.ofList (List.replicate (width - Text.width line) ' ') ++ " "

/-- The lines of a row. Each cell is continued by empty lines to the height of the highest one. -/
def rowLines (widths : List Nat) (row : List String) : List String :=
  let cells := row.map cellLines
  let height := cells.foldl (fun n lines => max n lines.length) 0
  (List.range height).map fun i =>
    let columns := List.zipWith (fun width lines => padded width (lines.getD i "")) widths cells
    "│" ++ String.intercalate "┆" columns ++ "│"

/-- A line of the frame: its left end, its stroke, its crossings and its right end. -/
def frameLine (widths : List Nat) (left stroke crossing right : Char) : String :=
  String.ofList (left ::
    List.intercalate [crossing] (widths.map fun w => List.replicate (w + 2) stroke) ++ [right])

/-- The lines of a table. There is no line under the head if there are no rows. -/
def lines (t : Table) : List String :=
  let ws := t.widths
  [frameLine ws '┌' '─' '┬' '┐'] ++ rowLines ws t.head ++
    (if t.rows.isEmpty then [] else frameLine ws '╞' '═' '╪' '╡' :: t.rows.flatMap (rowLines ws)) ++
    [frameLine ws '└' '─' '┴' '┘']

/-- The text of a table, without a line end after its last line. -/
def text (t : Table) : String :=
  String.intercalate "\n" t.lines

end Table

end ContextQuery.Terminal
