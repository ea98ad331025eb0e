/-
The shapes of lines outside fenced code: headings with hashes, underlines, thematic breaks, link
definitions and list items. Each reader takes a whole line and answers with the parts of the
shape, or with nothing where the line does not have it.
-/
import MarkdownStyle.Line.Basic

namespace MarkdownStyle

/-! ## Headings -/

/-- Heading text without a closing run of hashes. The run closes only where whitespace or the
start of the text stands before it. -/
def withoutClosing (t : Text) : Text :=
  let reversed := t.reverse.dropWhile Text.isBlank
  let before := reversed.dropWhile (· == '#')
  if reversed.head? == some '#' && before.head?.all Text.isBlank then Text.trim before.reverse
  else Text.trim t

/-- A heading of one to six hashes, whitespace and a text. -/
def hashHeading? (line : Text) : Option LineRole :=
  let (hashes, rest) := Text.span (· == '#') line
  if 1 ≤ hashes.length && hashes.length ≤ 6 && rest.head?.any Text.isBlank then
    some (.hashHeading hashes.length (withoutClosing (Text.trimLeft rest)))
  else none

/-- The level of the heading above an underline: one for equals signs, two for dashes. -/
def underlineLevel? (line : Text) : Option Nat :=
  match line with
  | '=' :: _ => level? '=' 1
  | '-' :: _ => level? '-' 2
  | _ => none
where
  level? (c : Char) (level : Nat) : Option Nat :=
    let (run, rest) := Text.span (· == c) line
    if 3 ≤ run.length && Text.isAllBlank rest then some level else none

/-! ## Breaks, definitions and list items -/

/-- Takes copies of a marker off a text, at most one space in front of each, and counts them. -/
def takeMarkers (marker : Char) : Text → Nat × Text
  | [] => (0, [])
  | [c] => if c == marker then (1, []) else (0, [c])
  | c :: d :: rest =>
    if c == marker then
      let (count, left) := takeMarkers marker (d :: rest)
      (count + 1, left)
    else if c == ' ' && d == marker then
      let (count, left) := takeMarkers marker rest
      (count + 1, left)
    else (0, c :: d :: rest)

/-- At least three dashes, asterisks or underscores of one kind, with at most one space between
neighbours and whitespace around them. -/
def isThematicBreak (line : Text) : Bool :=
  match Text.trimLeft line with
  | [] => false
  | marker :: rest =>
    (marker == '-' || marker == '*' || marker == '_') &&
      let (count, left) := takeMarkers marker rest
      2 ≤ count && Text.isAllBlank left

/-- The label of a link definition: brackets around it, a colon, whitespace and a target. -/
def definitionLabel? (line : Text) : Option Text :=
  match Text.trimLeft line with
  | '[' :: rest =>
    match Text.span (· != ']') rest with
    | ([], _) => none
    | (label, ']' :: ':' :: target) =>
      if target.head?.any Text.isBlank && !Text.isAllBlank target then some label else none
    | _ => none
  | _ => none

/-- A list item: the width of its indent, its bullet, the width of the gap and its content. -/
structure ListItem where
  indent : Nat
  bullet : Char
  gap : Nat
  content : Text
deriving DecidableEq

/-- Reads a line as a list item: a dash, asterisk or plus sign with whitespace after it. -/
def ListItem.ofLine? (line : Text) : Option ListItem :=
  let (indent, rest) := Text.span Text.isBlank line
  match rest with
  | [] => none
  | bullet :: rest =>
    let (gap, content) := Text.span Text.isBlank rest
    if (bullet == '-' || bullet == '*' || bullet == '+') && !gap.isEmpty then
      some ⟨indent.length, bullet, gap.length, content⟩
    else none

end MarkdownStyle
