/-
Rules whose findings do not depend on what a document says: they report given lines of every
document, or fail with a given message.
-/
import MarkdownStyle.Rule.Basic

namespace MarkdownStyle

/-- The line with a given number. Zero and below count back from the end, zero being the last. -/
def Document.line? (d : Document) (number : Int) : Option Text :=
  let index := number - 1
  let fromStart := if index < 0 then d.lines.length + index else index
  if fromStart < 0 then none else d.lines[fromStart.toNat]?

/-- The finding that a detail applies to a line. -/
def listedFinding (d : Document) (report : Int × String) : Except CheckFailure Finding :=
  match d.line? report.1 with
  | none => .error .noSuchLine
  | some line => .ok ⟨report.1, report.2, Text.trim line, none⟩

/-- A check that fails with a message if it has one, and else reports the listed lines. -/
def listedCheck (failure : Option String) (reports : List (Int × String)) (d : Document)
    (_ : Options) : Except CheckFailure (List Finding) :=
  match failure with
  | some message => .error (.raised message)
  | none => reports.mapM (listedFinding d)

end MarkdownStyle
