/-
Console markup: style tags in square brackets. A text is escaped before it goes into markup, so
that none of it is taken for a tag; what a reader sees is the markup without its tags.
-/
import MarkdownStyle.Text.Scan

namespace MarkdownStyle.Markup

/-- The rest of a tag behind its bracket: up to the first closing bracket, with no opening one in
front of that. -/
def tagRest? : Text → Option Text
  | [] => none
  | c :: rest =>
    if c == ']' then some [c] else if c == '[' then none else (tagRest? rest).map (c :: ·)

/-- A tag at the start of a text. It begins with a small letter, a hash, a slash or an at sign. -/
def tag? : Text → Option Text
  | '[' :: c :: rest =>
    if ('a' ≤ c && c ≤ 'z') || c == '#' || c == '/' || c == '@' then
      (tagRest? rest).map fun t => '[' :: c :: t
    else none
  | _ => none

/-- A tag with the backslashes in front of it. -/
structure Escaped where
  backslashes : Nat
  tag : Text

def escaped? (t : Text) : Option (Text.Found Escaped) :=
  let count := (t.takeWhile (· == '\\')).length
  (tag? (t.drop count)).map fun tag => ⟨count + tag.length, ⟨count, tag⟩⟩

/-! ## Writing -/

/-- Doubles the last character of a text if it is a single backslash. -/
def closeBackslash (t : Text) : Text :=
  match t.reverse with
  | ['\\'] => ['\\', '\\']
  | '\\' :: c :: _ => if c == '\\' then t else t ++ ['\\']
  | _ => t

/-- The markup that shows a text. -/
def escape (t : Text) : Text :=
  closeBackslash <| (Text.scan escaped? t).flatMap fun
    | .plain c => [c]
    | .found e => List.replicate (2 * e.backslashes + 1) '\\' ++ e.tag

/-! ## Showing -/

/-- What a tag with backslashes shows: one for each pair of them, and the tag itself if one is
left. -/
def shownTag (e : Escaped) : Text :=
  List.replicate (e.backslashes / 2) '\\' ++ if e.backslashes % 2 == 1 then e.tag else []

/-- What pieces of markup show. A backslash in front of an opening bracket hides. -/
def shownPieces : List (Text.Piece Escaped) → Text
  | [] => []
  | .found e :: rest => shownTag e ++ shownPieces rest
  | .plain '\\' :: .plain '[' :: rest => '[' :: shownPieces rest
  | .plain c :: rest => c :: shownPieces rest

/-- Whether the console drops a character: the bell, the backspace and three line ends. -/
def isDropped (c : Char) : Bool := c == '\x07' || c == '\x08' || ('\x0B' ≤ c && c ≤ '\x0D')

/-- Fills up tabs to the next multiple of eight columns. -/
def expandTabs (column : Nat) : Text → Text
  | [] => []
  | c :: rest =>
    if c == '\t' then
      let width := 8 - column % 8
      List.replicate width ' ' ++ expandTabs (column + width) rest
    else c :: expandTabs (if c == '\n' then 0 else column + 1) rest

/-- What markup shows on the console. -/
def shown (t : Text) : Text :=
  let text := if t.contains '[' then shownPieces (Text.scan escaped? t) else t
  expandTabs 0 (text.filter fun c => !isDropped c)

end MarkdownStyle.Markup
