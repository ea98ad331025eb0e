/-
The headings of a document. A heading by underline occupies two lines, every other one line.
-/
import MarkdownStyle.Line.Classify

namespace MarkdownStyle

structure Heading where
  /-- The line of the heading text. -/
  line : Nat
  level : Nat
  text : Text
  isUnderlined : Bool
deriving DecidableEq

namespace Heading

/-- The last line that the heading occupies. -/
def lastLine (h : Heading) : Nat := if h.isUnderlined then h.line + 1 else h.line

def ofLine? (line : Line) : Option Heading :=
  if line.role.isHeading then
    some ⟨line.number, line.role.level, line.role.heading, line.role.isUnderlined⟩
  else none

end Heading

/-- The headings among classified lines, in order. -/
def headings (lines : List Line) : List Heading := lines.filterMap Heading.ofLine?

end MarkdownStyle
