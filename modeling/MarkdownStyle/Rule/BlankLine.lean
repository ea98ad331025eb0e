/-
The rule on blank lines above underlined headings: a number of them by level, except above the
first thing in a document. The edit inserts the missing ones.
-/
import MarkdownStyle.Rule.Basic

namespace MarkdownStyle

namespace BlankLine

/-- The blank lines demanded above headings of level one and of level two. -/
structure Style where
  first : Int
  second : Int

def Style.ofOptions (o : Options) : Style := ⟨o.int "lines_before_h1" 1, o.int "lines_before_h2" 2⟩

def Style.required (s : Style) (level : Nat) : Int := if level = 1 then s.first else s.second

/-- The finding about a line with `blanks` blank lines directly above it. -/
def finding? (style : Style) (blanks : Nat) (line : Line) : Except CheckFailure (Option Finding) :=
  match line.role with
  | .underlinedText level _ =>
    let required := style.required level
    if (blanks : Int) < required then do
      let missing ← copyCount (required - blanks)
      let detail := "Expected " ++ toString required ++ " blank line(s) before h" ++ toString level ++
        ", found " ++ toString blanks
      return some (line.finding detail (some (.insert line.number (List.replicate missing []))))
    else .ok none
  | _ => .ok none

/-- The findings about lines below `blanks` blank lines, or below nothing else but blank lines. -/
def findingsFrom (style : Style) (blanks : Option Nat) : List Line → Except CheckFailure (List Finding)
  | [] => .ok []
  | line :: rest => do
    let found ← match blanks with
      | none => .ok none
      | some count => finding? style count line
    let below := if line.role == .blank then blanks.map (· + 1) else some 0
    let more ← findingsFrom style below rest
    return found.toList ++ more

end BlankLine

def blankLineRule : Rule where
  id := "HM004"
  name := "setext-heading-blank-lines"
  description := "Setext headings should have the required number of blank lines before them"
  tags := ["headings", "blank_lines"]
  severity := .error
  fixable := true
  defaults := [(.str "lines_before_h1", .int 1), (.str "lines_before_h2", .int 2)]
  minimums := [("lines_before_h1", 0), ("lines_before_h2", 0)]
  check d o := BlankLine.findingsFrom (.ofOptions o) none d.classified

end MarkdownStyle
