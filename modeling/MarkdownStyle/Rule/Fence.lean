/-
The rule on fences: tildes, and exactly as many as the style says. The edit keeps the indent, and
the info string of a fence that opens a block.
-/
import MarkdownStyle.Rule.Basic

namespace MarkdownStyle

namespace FenceStyle

/-- What is wrong with a fence run. -/
def fault? (length : Int) (run : FenceLine) : Option String :=
  let wrongLength := (run.length : Int) ≠ length
  if run.marker == backtick then
    if wrongLength then
      some ("Expected " ++ toString length ++ " tildes, found " ++ toString run.length ++ " backticks")
    else some "Expected tildes, found backticks"
  else if wrongLength then
    some ("Expected " ++ toString length ++ " tildes, found " ++ toString run.length)
  else none

/-- The finding about a fence at a line, where `opens` tells whether it opens a block. -/
def finding? (length : Int) (number : Nat) (line : Text) (opens : Bool) :
    Except CheckFailure (Option Finding) :=
  match FenceLine.ofLine? line with
  | none => .ok none
  | some run =>
    match fault? length run with
    | none => .ok none
    | some detail => do
      let fence ← copiesOf tilde length
      let text := run.indent ++ fence ++ if opens then run.info else []
      return some ⟨number, detail, Text.trim line, some (.replace number text)⟩

/-- The findings about lines from a state of the fence scan. -/
def findingsFrom (length : Int) (s : FenceState) (number : Nat) :
    List Text → Except CheckFailure (List Finding)
  | [] => .ok []
  | line :: rest => do
    let (next, isFence) := s.step line
    let found ← if isFence then finding? length number line (!s.isOpen) else .ok none
    let more ← findingsFrom length next (number + 1) rest
    return found.toList ++ more

end FenceStyle

def fenceRule : Rule where
  id := "HM002"
  name := "fenced-code-fence-length"
  description := "Fenced code blocks should use the specified fence length"
  tags := ["code", "fence"]
  severity := .error
  fixable := true
  defaults := [(.str "fence_length", .int 4)]
  minimums := [("fence_length", 3)]
  check d o := FenceStyle.findingsFrom (o.int "fence_length" 4) .outside 1 d.lines

end MarkdownStyle
