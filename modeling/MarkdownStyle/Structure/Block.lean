/-
Content blocks: the lines between one heading and the next, whatever their levels. Blocks and
headings share the lines of a document out among them. A block between adjacent headings is empty
and ends one line before it starts.
-/
import MarkdownStyle.Structure.Heading

namespace MarkdownStyle

/-- A range of lines, both ends included. Ranges given by a caller may reach beyond a document. -/
structure Block where
  first : Int
  last : Int
deriving DecidableEq

namespace Block

def isEmpty (b : Block) : Bool := b.last < b.first

def contains (b : Block) (line : Int) : Bool := b.first ≤ line && line ≤ b.last

/-- The number of lines that a block covers. -/
def size (b : Block) : Nat := (b.last + 1 - b.first).toNat

end Block

/-- Blocks from line `first` to the last line of a document, cut at headings. A heading on the
first line has no block in front of it. -/
def blocksFrom (first : Nat) (last : Nat) : List Heading → List Block
  | [] => [⟨first, last⟩]
  | h :: rest =>
    let after := blocksFrom (h.lastLine + 1) last rest
    if 1 < h.line then ⟨first, (h.line : Int) - 1⟩ :: after else after

/-- The content blocks of classified lines. -/
def blocks (lines : List Line) : List Block := blocksFrom 1 lines.length (headings lines)

/-- The content blocks of a document. -/
def contentBlocks (lines : List Text) : List Block := blocks (classify lines)

end MarkdownStyle
