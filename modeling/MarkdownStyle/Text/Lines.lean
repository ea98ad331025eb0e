/-
Lines of a text. A line ends at a line feed, a carriage return or the two together; splitting
drops the ends, and joining writes one style of end throughout.
-/
import MarkdownStyle.Text.Basic

namespace MarkdownStyle.Text

/-- The lines of a text without their ends. A final line end does not open another line. -/
def lines : Text → List Text
  | [] => []
  | '\r' :: '\n' :: rest => [] :: lines rest
  | '\r' :: rest => [] :: lines rest
  | '\n' :: rest => [] :: lines rest
  | c :: rest =>
    match lines rest with
    | [] => [[c]]
    | line :: more => (c :: line) :: more

/-- Whether a carriage return directly followed by a line feed occurs. -/
def hasPairedBreak : Text → Bool
  | '\r' :: '\n' :: _ => true
  | _ :: rest => hasPairedBreak rest
  | [] => false

/-- Whether the last character ends a line. -/
def endsWithBreak (t : Text) : Bool := t.getLast?.any fun c => c == '\n' || c == '\r'

/-- The line end that a text is written with: the pair if it occurs anywhere. -/
def lineEnd (t : Text) : Text := if hasPairedBreak t then ['\r', '\n'] else ['\n']

/-- Lines written with the line ends of `like`, the last one closed as in `like`. -/
def writeLines (parts : List Text) (like : Text) : Text :=
  join (lineEnd like) parts ++ if endsWithBreak like then lineEnd like else []

/-- The text with every line end written as a line feed. -/
def unifyBreaks : Text → Text
  | [] => []
  | '\r' :: '\n' :: rest => '\n' :: unifyBreaks rest
  | '\r' :: rest => '\n' :: unifyBreaks rest
  | c :: rest => c :: unifyBreaks rest

end MarkdownStyle.Text
