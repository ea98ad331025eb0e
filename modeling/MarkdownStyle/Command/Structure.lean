/-
Showing the content blocks and the sections of a file.
-/
import MarkdownStyle.Command.Linter
import MarkdownStyle.Structure.Section

namespace MarkdownStyle.Command

variable (k : Packages)

/-- A range of lines. -/
def spanText (first last : Int) : Text := (toString first ++ "-" ++ toString last).toList

/-! ## Content blocks -/

def blockRow (lines : List Text) (number : Nat) (b : Block) : List Text :=
  let inside := (lines.take b.last.toNat).drop (b.first - 1).toNat
  let inked := (inside.map Text.trim).find? fun line => !line.isEmpty
  let (span, first) :=
    if b.isEmpty then ((toString b.first ++ " (empty)").toList, [])
    else (spanText b.first b.last, inked.getD [])
  [(toString number).toList, span, k.escape first]

def runBlocks (t : FileTree) (p : Path) : Printed :=
  match t.readText p with
  | .error e => fileRefusal k p e
  | .ok text =>
    let lines := Text.lines text
    let rows := (contentBlocks lines).mapIdx fun i b => blockRow k lines (i + 1) b
    let header := [['#'], "Lines".toList, "First line".toList]
    let title := "Content blocks of ".toList ++ k.escape p.toString.toList
    ⟨0, [.table (some title) (header :: rows)]⟩

/-! ## Sections -/

/-- What stands for the heading of a section without one. -/
def noHeading : Text := "[dim](before first heading)[/dim]".toList

def sectionStyle (s : Section) : Text :=
  if s.level = 0 then ['-'] else if s.isUnderlined then "setext".toList else "atx".toList

def sectionRow (s : Section) : List Text :=
  let heading := k.escape s.heading
  [(toString s.level).toList, if heading.isEmpty then noHeading else heading,
    spanText s.first s.last, sectionStyle s]

/-- The names of the columns of an outline. -/
def outlineHeader : List Text := ["Level".toList, "Heading".toList, "Lines".toList, "Style".toList]

def runOutline (t : FileTree) (p : Path) (level : Int) : Printed :=
  match t.readText p with
  | .error e => fileRefusal k p e
  | .ok text =>
    let title := "Sections of ".toList ++ k.escape p.toString.toList
    ⟨0, [.table (some title) (outlineHeader :: (sections (Text.lines text) level).map (sectionRow k))]⟩

end MarkdownStyle.Command
