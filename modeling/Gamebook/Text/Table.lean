import Gamebook.Text.Blank
import Gamebook.Text.Width

/-!
# Tables

A header and rows of cells, drawn with a frame. A cell may have several lines. Each column is as
wide as its widest line; lines start at its left.
-/

namespace Gamebook.Text

/-- A table. Each row has a cell for each column of the header. -/
structure Table where
  header : List String
  rows : List (List String)

/-- The columns that a line takes. -/
def lineWidth (line : String) : Nat := width line.toList

/-- The lines of a cell. -/
def cellLines (cell : String) : List String := splitAt '\n' cell

/-- The columns that a cell takes. -/
def cellWidth (cell : String) : Nat := ((cellLines cell).map lineWidth).foldl max 0

/-- A line with spaces up to a width. -/
def padded (columns : Nat) (line : String) : String :=
  line ++ "".pushn ' ' (columns - lineWidth line)

/-- The lines of a row. A cell with fewer lines than others is filled up with empty ones. -/
def rowLines (widths : List Nat) (cells : List String) : List String :=
  let cells := cells.map cellLines
  let height := (cells.map List.length).foldl max 0
  (List.range height).map fun i =>
    let parts := List.zipWith (fun columns lines => padded columns (lines.getD i "")) widths cells
    "| " ++ " | ".intercalate parts ++ " |"

/-- A line of dashes with a mark between the columns. -/
def ruler (edge : String) (widths : List Nat) : String :=
  edge ++ "+".intercalate (widths.map fun columns => "".pushn '-' (columns + 2)) ++ edge

namespace Table

/-- The widths of the columns. -/
def widths (table : Table) : List Nat :=
  table.rows.foldl (fun widths row => List.zipWith max widths (row.map cellWidth))
    (table.header.map cellWidth)

/-- The line under the header. -/
def underline (widths : List Nat) : String :=
  "+" ++ "".pushn '=' ((ruler "+" widths).length - 2) ++ "+"

/-- The lines of a table. -/
def lines (table : Table) : List String :=
  let widths := table.widths
  let rows := table.rows.map (rowLines widths)
  [ruler "+" widths] ++ rowLines widths table.header ++ [underline widths] ++
    (rows.intersperse [ruler "|" widths]).flatten ++ [ruler "+" widths]

end Table

end Gamebook.Text
