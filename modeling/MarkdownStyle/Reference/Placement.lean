/-
The place of link definitions. A definition belongs into the block of the first usage of its
label, below all prose of that block. Thematic breaks cut a block into parts, and only the
prose of its own part counts for a definition.
-/
import MarkdownStyle.Reference.Basic

namespace MarkdownStyle

/-! ## First usages -/

/-- Records a block for a label that has none yet. -/
def recordFirst (known : List (Text × Block)) (u : Usage) : List (Text × Block) :=
  if (known.lookup u.label).isSome then known else known ++ [(u.label, u.block)]

/-- Each used label with the block of its first usage, in the order of first usages. -/
def firstUses (lines : List Line) (bs : List Block) : List (Text × Block) :=
  (bs.flatMap (usages lines)).foldl recordFirst []

/-! ## Parts -/

/-- A part of a block between thematic breaks, with its last line of prose or zero. -/
structure Part where
  first : Int
  last : Int
  lastProse : Nat
deriving DecidableEq

/-- The lines of a block that are looked at for breaks. A block that starts on line one or below
is looked at from there; the start of any other counts back from the end of the document. -/
def breakLines (lines : List Line) (block : Block) : List Line :=
  let above := block.first - 1
  let skipped := if above < 0 then lines.length + above else above
  (lines.take block.last.toNat).drop skipped.toNat

/-- Cuts the range from `first` to `last` at the breaks among its lines. -/
def partBounds (first last : Int) : List Line → List (Int × Int)
  | [] => [(first, last)]
  | line :: rest =>
    if line.role == .thematicBreak then
      (first, (line.number : Int) - 1) :: partBounds (line.number + 1) last rest
    else partBounds first last rest

/-- The parts of a block, in order. -/
def parts (lines : List Line) (block : Block) : List Part :=
  (partBounds block.first block.last (breakLines lines block)).map fun (first, last) =>
    ⟨first, last, lastProse lines first last⟩

/-! ## Misplaced definitions -/

inductive Misplacement where
  /-- The label is first used in another block. -/
  | otherBlock
  /-- Prose of the same part follows. -/
  | beforeProse
deriving DecidableEq

def Misplacement.reason : Misplacement → String
  | otherBlock => "should be in the same content block where it is used"
  | beforeProse => "should be at content block end"

/-- A misplaced definition, with its line as it stands in the document. -/
structure Misplaced where
  line : Nat
  label : Text
  kind : Misplacement
  excerpt : Text
deriving DecidableEq

def Misplaced.detail (m : Misplaced) : String :=
  "Reference link definition for \"" ++ String.ofList m.label ++ "\" " ++ m.kind.reason

/-- Whether a definition is in the wrong place, and why. The first part around it decides. -/
def Definition.misplacement? (d : Definition) (known : List (Text × Block)) (parts : List Part) :
    Option Misplacement :=
  if (known.lookup d.key).any (· != d.block) then some .otherBlock
  else
    match parts.find? fun p => p.first ≤ (d.line : Int) && (d.line : Int) ≤ p.last with
    | some p => if d.line < p.lastProse then some .beforeProse else none
    | none => none

/-- The excerpt for a definition: its line without surrounding whitespace. -/
def excerptAt (lines : List Line) (number : Nat) : Text :=
  ((lines[number - 1]?).map fun line => Text.trim line.text).getD []

/-- The misplaced definitions of a document, block by block. -/
def misplacedDefinitions (lines : List Line) (bs : List Block) : List Misplaced :=
  let known := firstUses lines bs
  bs.flatMap fun block =>
    (definitions lines block).filterMap fun d =>
      (d.misplacement? known (parts lines block)).map fun kind =>
        ⟨d.line, d.label, kind, excerptAt lines d.line⟩

end MarkdownStyle
