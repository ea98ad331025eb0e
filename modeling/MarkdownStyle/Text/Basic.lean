/-
Texts as lists of characters, so that every length counts code points. Whitespace is a fixed set
of 29 characters; a text can be trimmed of it at both ends and cut into words at its runs.
-/
import MarkdownStyle.Text.Ranges

namespace MarkdownStyle

/-- The characters of a text in order. -/
abbrev Text := List Char

namespace Text

/-- Tab to carriage return, the four information separators and the space, the next line, the
no-break space and the spaces and separators of general punctuation; not the zero width ones. -/
def blanks : Ranges :=
  [(0x09, 0x0D), (0x1C, 0x20), (0x85, 0x85), (0xA0, 0xA0), (0x1680, 0x1680), (0x2000, 0x200A),
    (0x2028, 0x2029), (0x202F, 0x202F), (0x205F, 0x205F), (0x3000, 0x3000)]

def isBlank (c : Char) : Bool := blanks.has c

/-- Whether a text is empty or whitespace only. -/
def isAllBlank (t : Text) : Bool := t.all isBlank

def trimLeft (t : Text) : Text := t.dropWhile isBlank

def trimRight (t : Text) : Text := (t.reverse.dropWhile isBlank).reverse

/-- The text without the whitespace at its two ends. -/
def trim (t : Text) : Text := trimRight (trimLeft t)

/-- The maximal runs of characters that are not whitespace. -/
def words : Text → List Text
  | [] => []
  | c :: rest =>
    if isBlank c then words rest
    else
      match rest, words rest with
      | d :: _, word :: more => if isBlank d then [c] :: word :: more else (c :: word) :: more
      | _, more => [c] :: more

/-- Texts one after the other with a separator between neighbours. -/
def join (separator : Text) (parts : List Text) : Text := (parts.intersperse separator).flatten

/-- Splits off the longest start whose characters all pass the test. -/
def span (p : Char → Bool) (t : Text) : Text × Text := (t.takeWhile p, t.dropWhile p)

end Text

end MarkdownStyle
