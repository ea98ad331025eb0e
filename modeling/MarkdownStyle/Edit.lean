/-
Applying line edits to a document. Edits go from the bottom of the document to its top, so that
insertions do not move the lines still to come; on one line, replacements go before insertions
and only the first replacement counts.
-/
import MarkdownStyle.Issue

namespace MarkdownStyle

/-- Whether an edit is applied before another one or in the same turn. -/
def LineEdit.notAfter (a b : LineEdit) : Bool :=
  b.line < a.line || (a.line == b.line && (a.replacement.isSome || b.replacement.isNone))

/-- Lines in the middle of being edited, with the numbers of the lines that were replaced. -/
structure Patch where
  lines : List Text
  replaced : List Int

namespace Patch

/-- Puts texts in front of the line at an index. -/
def insertAt (p : Patch) (index : Nat) (texts : List Text) : Patch :=
  ⟨p.lines.take index ++ texts ++ p.lines.drop index, p.replaced⟩

/-- Applies an edit; one outside the document or of a line already replaced changes nothing. -/
def apply (p : Patch) (edit : LineEdit) : Patch :=
  if edit.line < 1 || (p.lines.length : Int) < edit.line then p
  else
    let index := (edit.line - 1).toNat
    match edit.replacement with
    | none => p.insertAt index edit.inserted
    | some text =>
      if p.replaced.contains edit.line then p
      else (⟨p.lines.set index text, edit.line :: p.replaced⟩ : Patch).insertAt index edit.inserted

end Patch

/-- The lines after all edits. -/
def applyEdits (lines : List Text) (edits : List LineEdit) : List Text :=
  ((edits.mergeSort LineEdit.notAfter).foldl Patch.apply ⟨lines, []⟩).lines

end MarkdownStyle
