/-
The Markdown files that a list of paths stands for: files as they are given, and of directories all
Markdown files below them that no hidden directory holds. Each path comes once, in order.
-/
import MarkdownStyle.Files.Tree

namespace MarkdownStyle

/-- Whether a file below a directory belongs to its Markdown files, by the names down to it. -/
def isListed (names : List String) : Bool :=
  !names.dropLast.any isHidden && names.getLast?.any isMarkdown

/-- The Markdown files below an entry. -/
def markdownBelow (e : Entry) : List (List String) := (e.files.map (·.1)).filter isListed

/-- The files that one path stands for. -/
def expand (t : FileTree) (p : Path) : List Path :=
  match t.entry? p with
  | .ok (.directory entries) => (markdownBelow (.directory entries)).map p.below
  | _ => [p]

/-- The files that paths stand for. -/
def collect (t : FileTree) (paths : List Path) : List Path :=
  ((paths.flatMap (expand t)).eraseDups).mergeSort Path.notAfter

end MarkdownStyle
