/-
The lines of a classified document: each has its number, its text and its role. Only a heading
has a level and a heading text, and only a definition a label; the accessors are zero and empty
for the other roles.
-/
import MarkdownStyle.Text.Basic

namespace MarkdownStyle

/-- The role of a line in the structure of a document. -/
inductive LineRole where
  | blank
  /-- Opens or closes a fenced code block. -/
  | fence
  /-- Inside a fenced code block. -/
  | code
  /-- A heading that starts with hashes. -/
  | hashHeading (level : Nat) (heading : Text)
  /-- A heading by the underline below it. -/
  | underlinedText (level : Nat) (heading : Text)
  | underline (level : Nat)
  | thematicBreak
  /-- The first line of a link definition. -/
  | definition (label : Text)
  /-- A further line of a link definition. -/
  | continuation
  | text
deriving DecidableEq

namespace LineRole

/-- The heading level of a heading or underline, else zero. -/
def level : LineRole → Nat
  | hashHeading level _ | underlinedText level _ | underline level => level
  | _ => 0

def heading : LineRole → Text
  | hashHeading _ heading | underlinedText _ heading => heading
  | _ => []

def label : LineRole → Text
  | definition label => label
  | _ => []

/-- Whether the line carries the text of a heading. -/
def isHeading : LineRole → Bool
  | hashHeading .. | underlinedText .. => true
  | _ => false

def isUnderlined : LineRole → Bool
  | underlinedText .. => true
  | _ => false

/-- Whether the line belongs to a fenced code block, its fences included. -/
def isFenced : LineRole → Bool
  | fence | code => true
  | _ => false

end LineRole

/-- A role without what a heading or a definition carries. -/
inductive LineKind where
  | blank
  | fence
  | code
  | hashHeading
  | underlinedText
  | underline
  | thematicBreak
  | definition
  | continuation
  | text
deriving DecidableEq

def LineRole.kind : LineRole → LineKind
  | blank => .blank
  | fence => .fence
  | code => .code
  | hashHeading .. => .hashHeading
  | underlinedText .. => .underlinedText
  | underline _ => .underline
  | thematicBreak => .thematicBreak
  | definition _ => .definition
  | continuation => .continuation
  | text => .text

/-- A line of a document, numbered from one. -/
structure Line where
  number : Nat
  text : Text
  role : LineRole
deriving DecidableEq

end MarkdownStyle
