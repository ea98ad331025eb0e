/-
What a command prints: lines, tables of cells, and reports in JSON. Lines and cells are console markup
until the console shows them.
-/
import MarkdownStyle.Issue

namespace MarkdownStyle

inductive Output where
  | line (text : Text)
  | table (title : Option Text) (rows : List (List Text))
  | reports (reports : List Report)

/-- What a command leaves behind: its exit status and what it printed. -/
structure Printed where
  exitCode : Nat
  output : List Output

end MarkdownStyle
