/-
Classification of the lines of a document in one pass from top to bottom. The pass keeps the
fence scan and the role of the line above; an underline turns the line above it into the text of
a heading, so the role of a line is settled by the line below it.
-/
import MarkdownStyle.Line.Fence
import MarkdownStyle.Line.Grammar

namespace MarkdownStyle

/-- The role of a line that is neither fenced nor an underline, given the role of the line above. -/
def plainRole (above : Option LineRole) (line : Text) : LineRole :=
  if Text.isAllBlank line then .blank
  else
    match hashHeading? line with
    | some heading => heading
    | none =>
      if isThematicBreak line then .thematicBreak
      else
        match definitionLabel? line with
        | some label => .definition label
        | none =>
          match above with
          | some (.definition _) | some .continuation => .continuation
          | _ => .text

/-- Whether an underline of this level makes a heading of the line above it. Equals signs cannot
be a break and underline whatever is not blank, fenced or a heading; dashes underline plain text
only. -/
def underlines (level : Nat) (above : Option LineRole) : Bool :=
  match above with
  | some .text => true
  | some (.definition _) | some .continuation | some .thematicBreak => level == 1
  | _ => false

/-- Where the pass stands: the fence scan, and the role of the line above. -/
structure LineScan where
  fence : FenceState
  above : Option LineRole

namespace LineScan

def start : LineScan := ⟨.outside, none⟩

/-- The role of the next line, as far as the lines down to it tell. -/
def role (s : LineScan) (line : Text) : LineRole :=
  if (s.fence.step line).2 then .fence
  else if s.fence.isOpen then .code
  else
    match underlineLevel? line with
    | some level => if underlines level s.above then .underline level else plainRole s.above line
    | none => plainRole s.above line

def next (s : LineScan) (line : Text) : LineScan :=
  ⟨(s.fence.step line).1, some (s.role line)⟩

end LineScan

/-- The role of a line once the line below it is known. -/
def LineRole.settled (role : LineRole) (line : Text) (below : Option LineRole) : LineRole :=
  match below with
  | some (.underline level) => .underlinedText level (Text.trim line)
  | _ => role

/-- Classifies lines from a state of the pass, numbering them from `number`. -/
def classifyFrom (s : LineScan) (number : Nat) : List Text → List Line
  | [] => []
  | line :: rest =>
    let below := classifyFrom (s.next line) (number + 1) rest
    ⟨number, line, (s.role line).settled line (below.head?.map (·.role))⟩ :: below

/-- The classified lines of a document. -/
def classify (lines : List Text) : List Line := classifyFrom .start 1 lines

end MarkdownStyle
