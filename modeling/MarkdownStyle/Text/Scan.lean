/-
Leftmost scanning. A pattern looks at the start of a text and tells how many characters it takes;
the scan walks to the right, takes what the pattern takes and passes on the other characters one
by one. Matches never overlap, and what a match takes is not looked at again.
-/
import MarkdownStyle.Text.Basic

namespace MarkdownStyle.Text

/-- What a pattern found at the start of a text: how many characters it takes, and its reading. -/
structure Found (α : Type) where
  length : Nat
  value : α

/-- A stretch of a scanned text: a character that no match took, or a match. -/
inductive Piece (α : Type) where
  | plain (c : Char)
  | found (value : α)

/-- The scan of a text whose first `skip` characters belong to the match before. -/
def scanFrom {α : Type} (pattern : Text → Option (Found α)) : Nat → Text → List (Piece α)
  | _, [] => []
  | skip + 1, _ :: rest => scanFrom pattern skip rest
  | 0, c :: rest =>
    match pattern (c :: rest) with
    | some f => .found f.value :: scanFrom pattern (f.length - 1) rest
    | none => .plain c :: scanFrom pattern 0 rest

def scan {α : Type} (pattern : Text → Option (Found α)) (t : Text) : List (Piece α) :=
  scanFrom pattern 0 t

/-- The text with each match replaced by its reading. -/
def replaceAll (pattern : Text → Option (Found Text)) (t : Text) : Text :=
  (scan pattern t).flatMap fun
    | .plain c => [c]
    | .found s => s

/-- The readings of all matches from left to right. -/
def findAll {α : Type} (pattern : Text → Option (Found α)) (t : Text) : List α :=
  (scan pattern t).filterMap fun
    | .plain _ => none
    | .found v => some v

end MarkdownStyle.Text
