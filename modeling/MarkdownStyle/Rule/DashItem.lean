/-
The rule on list items with dashes: one space in front of a dash, a fixed step more for each level
of nesting, and a fixed gap behind it. A wrong indent is moved to the nearest right one.
-/
import MarkdownStyle.Decimal.Binary
import MarkdownStyle.Rule.Basic

namespace MarkdownStyle

/-- The right indent that is nearest to a wrong one, the larger of two. The level of nesting is
found in floating point numbers: the quotient is rounded, then its sum with a half, and what stands
behind the point is dropped. A step of zero has no answer. -/
def closestIndent? (indent step : Int) : Option Int :=
  if indent < 1 then some 1
  else if step = 0 then none
  else
    let quotient := BinaryFraction.ofQuotient ((indent - 1) * step.sign) step.natAbs
    some (1 + quotient.addHalf.truncate * step)

namespace DashItem

/-- The step between levels of nesting, and the gap behind a dash. -/
structure Style where
  step : Int
  gap : Int

def Style.ofOptions (o : Options) : Style := ⟨o.int "nested_indent" 4, o.int "post_marker_spaces" 2⟩

/-- A list item with a dash, laid out anew. -/
def layout (style : Style) (indent : Int) (content : Text) : Except CheckFailure Text := do
  let before ← copiesOf ' ' indent
  let gap ← copiesOf ' ' style.gap
  return before ++ ['-'] ++ gap ++ content

/-- What is wrong with an item: its indent, else its gap. With it comes the right indent. -/
def fault? (style : Style) (item : ListItem) : Except CheckFailure (Option (String × Int)) :=
  if item.indent < 1 then return wrongIndent 1
  else if style.step = 0 then .error .zeroIndent
  else if Int.fmod (item.indent - 1) style.step ≠ 0 then
    return wrongIndent ((closestIndent? item.indent style.step).getD 1)
  else if (item.gap : Int) ≠ style.gap then
    let detail := "Expected " ++ toString style.gap ++ " space(s) after marker, found " ++
      toString item.gap
    return some (detail, item.indent)
  else return none
where
  wrongIndent (expected : Int) : Option (String × Int) :=
    some ("Expected " ++ toString expected ++ " leading space(s), found " ++ toString item.indent,
      expected)

/-- The finding about a line, if it is a list item with a dash that is laid out wrongly. -/
def finding? (style : Style) (line : Line) : Except CheckFailure (Option Finding) :=
  match line.role, ListItem.ofLine? line.text with
  | .text, some item =>
    if item.bullet == '-' then do
      match ← fault? style item with
      | none => return none
      | some (detail, indent) =>
        let text ← layout style indent item.content
        return some (line.finding detail (some (.replace line.number text)))
    else .ok none
  | _, _ => .ok none

end DashItem

def dashItemRule : Rule where
  id := "HM001"
  name := "list-item-marker-space"
  description := "List items should use ' -  ' format (one space before, two after)"
  tags := ["bullet", "ul", "whitespace"]
  severity := .error
  fixable := true
  defaults := [(.str "nested_indent", .int 4), (.str "post_marker_spaces", .int 2)]
  minimums := [("nested_indent", 1), ("post_marker_spaces", 1)]
  check d o := do
    let found ← d.classified.mapM (DashItem.finding? (.ofOptions o))
    return found.filterMap id

end MarkdownStyle
