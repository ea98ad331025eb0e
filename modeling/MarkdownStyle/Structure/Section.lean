/-
Sections: a heading of at most a given level with everything up to the next such heading. What
stands before the first of them is a section of level zero.
-/
import MarkdownStyle.Structure.Heading

namespace MarkdownStyle

structure Section where
  /-- The level of the heading, or zero for what stands before the first one. -/
  level : Nat
  heading : Text
  first : Nat
  last : Nat
  isUnderlined : Bool
deriving DecidableEq

/-- The section that a heading opens. -/
def Heading.sectionTo (h : Heading) (last : Nat) : Section :=
  ⟨h.level, h.text, h.line, last, h.isUnderlined⟩

/-- The sections that a heading and the ones after it open. -/
def sectionsFrom (h : Heading) (last : Nat) : List Heading → List Section
  | [] => [h.sectionTo last]
  | next :: rest => h.sectionTo (next.line - 1) :: sectionsFrom next last rest

/-- The lines before the first section heading, unless there are none. -/
def leadingSection (last : Nat) : List Section := if last = 0 then [] else [⟨0, [], 1, last, false⟩]

/-- The sections of a document at headings of at most `level`. -/
def sections (lines : List Text) (level : Int) : List Section :=
  match (headings (classify lines)).filter fun h => (h.level : Int) ≤ level with
  | [] => leadingSection lines.length
  | h :: rest => leadingSection (h.line - 1) ++ sectionsFrom h lines.length rest

end MarkdownStyle
