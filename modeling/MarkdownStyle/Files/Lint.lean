/-
Linting and fixing files of a tree. A file is read with every line end as a line feed, and written
only if fixing changes its text.
-/
import MarkdownStyle.Files.Tree
import MarkdownStyle.Linter

namespace MarkdownStyle.Linter

/-- The report on a file. -/
def lintAt (l : Linter) (t : FileTree) (p : Path) : Except FileError Report :=
  (t.readText p).map fun text => l.lint text p.toString

/-- The tree with a file fixed, and the report on the file after that. -/
def fixAt (l : Linter) (t : FileTree) (p : Path) : Except FileError (FileTree × Report) :=
  (t.readText p).map fun text =>
    let (fixed, report) := l.fix text p.toString
    (if fixed == text then t else t.writeText p fixed, report)

end MarkdownStyle.Linter
