/-
What the console shows of what a command prints: lines and cells without the tags of their markup, and
without the whitespace at their ends. Codes of emoji stay as they are written.
-/
import MarkdownStyle.Console.Markup
import MarkdownStyle.Console.Output

namespace MarkdownStyle.Output

/-- The lines of a text without the whitespace at their ends. -/
def splitShown (t : Text) : List Text :=
  (t.foldr (fun c parts =>
    if c == '\n' then [] :: parts
    else
      match parts with
      | [] => [[c]]
      | part :: rest => (c :: part) :: rest) [[]]).map Text.trimRight

/-- The cell that markup shows in a table. -/
def cell (t : Text) : Text := Text.trim (Markup.shown t)

/-- The output as the console shows it. Reports are no markup. -/
def shown : Output → List Output
  | line markup => (splitShown (Markup.shown markup)).map line
  | table title rows => [table (title.map cell) (rows.map (·.map cell))]
  | reports rs => [reports rs]

end MarkdownStyle.Output
