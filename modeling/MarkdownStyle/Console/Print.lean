/-
The text of what a command prints. A table is its title and its rows, in columns as wide as their
widest cells and two spaces apart.
-/
import MarkdownStyle.Console.Json
import MarkdownStyle.Console.Output

namespace MarkdownStyle.Output

/-- The width of each column of a table. -/
def columnWidths (rows : List (List Text)) : List Nat :=
  let widen (width cell : Option Nat) : Nat := max (width.getD 0) (cell.getD 0)
  rows.foldl (fun widths row => List.zipWithAll widen widths (row.map List.length)) []

/-- A row with its cells filled up to the width of their columns. -/
def rowText (widths : List Nat) (row : List Text) : Text :=
  let cells := List.zipWith (fun width cell => cell.rightpad width ' ') widths row
  Text.trimRight (Text.join [' ', ' '] cells)

/-- The lines of an output, which for reports is a text of several lines. -/
def texts : Output → List Text
  | line text => [text]
  | table title rows => title.toList ++ rows.map (rowText (columnWidths rows))
  | reports rs => [(reportsText rs).toList]

end MarkdownStyle.Output
