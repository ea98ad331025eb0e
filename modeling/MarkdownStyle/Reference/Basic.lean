/-
Link definitions and usages of their labels, found in ranges of lines. A definition extends over
the continuation lines below it; usages are looked for in text and in continuation lines.
-/
import MarkdownStyle.Reference.Label
import MarkdownStyle.Structure.Block

namespace MarkdownStyle

/-- A link definition, with the label as it is written. -/
structure Definition where
  label : Text
  line : Nat
  /-- The last continuation line, or the line itself. -/
  lastLine : Nat
  block : Block
deriving DecidableEq

def Definition.key (d : Definition) : Text := labelKey d.label

/-- A use of a normalized label. -/
structure Usage where
  label : Text
  line : Nat
  block : Block
deriving DecidableEq

/-- The lines of a document from `first` to `last`, as far as the document has them. -/
def slice (lines : List Line) (first last : Int) : List Line :=
  (lines.take last.toNat).drop (first - 1).toNat

/-- The usages on one line of a block. -/
def usagesOn (block : Block) (line : Line) : List Usage :=
  match line.role with
  | .text | .continuation => (usedLabels line.text).map (⟨·, line.number, block⟩)
  | _ => []

/-- Every usage in a block, in order. -/
def usages (lines : List Line) (block : Block) : List Usage :=
  (slice lines block.first block.last).flatMap (usagesOn block)

/-- The number of the last of the continuation lines at the start of a list, else `line`. -/
def lastContinuation (line : Nat) (below : List Line) : Nat :=
  ((below.takeWhile (·.role == .continuation)).getLast?.map (·.number)).getD line

/-- The definitions that start in a list of lines of a block. -/
def definitionsFrom (block : Block) : List Line → List Definition
  | [] => []
  | line :: rest =>
    match line.role with
    | .definition label =>
      ⟨label, line.number, lastContinuation line.number rest, block⟩ :: definitionsFrom block rest
    | _ => definitionsFrom block rest

/-- Every definition that starts in a block, in order. -/
def definitions (lines : List Line) (block : Block) : List Definition :=
  definitionsFrom block (slice lines block.first block.last)

/-- The last line of prose in a range, or zero if the range has none. Only text is prose. -/
def lastProse (lines : List Line) (first last : Int) : Nat :=
  (((slice lines first last).reverse.find? (·.role == .text)).map (·.number)).getD 0

end MarkdownStyle
