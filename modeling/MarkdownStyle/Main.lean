/-
The command line. What the arguments can reach is read into a file tree whose top is the root of
the file system; the run itself is a function on that tree, and the files that it changed are
written back.
-/
import MarkdownStyle.Command.Run
import MarkdownStyle.Console.Print

namespace MarkdownStyle

/-- The name of a place in the file system. -/
def placeName (place : List String) : String := "/" ++ String.intercalate "/" place

/-- The path of a place. Its name starts at the root, so the working directory drops out. -/
def pathOnDisk (place : List String) := (· / placeName place) <$> IO.currentDir

/-- Adds a directory to a tree unless it is there. -/
def withDirectory (top : Entry) (place : List String) : IO Entry := do
  if (← (← pathOnDisk place).isDir) && (top.at? place).isNone then
    return top.put (.directory []) place
  else return top

/-- Adds a file that was asked for to a tree, or the Markdown files below a directory that no
hidden directory holds. -/
partial def withPlace (asked : Bool) (top : Entry) (place : List String) : IO Entry := do
  let path ← pathOnDisk place
  let name := place.getLast?.getD ""
  if ← path.isDir then
    if asked || !isHidden name then
      (← path.readDir).toList.foldlM (fun top e => withPlace false top (place ++ [e.fileName]))
        (← withDirectory top place)
    else return top
  else if (← path.pathExists) && (asked || isMarkdown name) then
    return top.put (.file (← IO.FS.readBinFile path).toList) place
  else return top

/-- Adds what a path leads to, with the directories on the way to it. -/
def withPath (t : FileTree) (p : Path) : IO FileTree := do
  let resolved (names : List String) := resolveNames? t (t.start p) names
  let ways := (List.range p.parts.length).filterMap fun n => resolved (p.parts.take n)
  let top ← ways.foldlM withDirectory t.top
  return { t with top := ← (resolved p.parts).toList.foldlM (withPlace true) top }

/-- The tree of all that a run with the given arguments looks at. -/
def reachableTree (arguments : List String) : IO FileTree := do
  let current := (Path.ofString (← IO.currentDir).toString).parts
  let configs := (withParents current).flatMap fun place => configNames.map fun name => place ++ [name]
  let top ← configs.foldlM (withPlace true) (← withDirectory (.directory []) current)
  let named := arguments ++ arguments.filterMap fun argument => (splitOption argument).2
  let t ← (named.filter (· != "")).foldlM (fun t s => withPath t (.ofString s)) ⟨top, current, ""⟩
  match Command.ofArguments t arguments with
  | .ok (.check options) => if options.paths.isEmpty then withPath t ⟨.current, []⟩ else return t
  | _ => return t

/-- Writes the files in which two trees differ. -/
def writeChanges (before after : FileTree) : IO Unit :=
  let known := before.top.files
  after.top.files.forM fun (place, content) => do
    if known.lookup place != some content then
      IO.FS.writeBinFile (placeName place) ⟨content.toArray⟩

end MarkdownStyle

open MarkdownStyle in
def main (arguments : List String) : IO UInt32 := do
  let t ← reachableTree arguments
  let outcome := Command.runArguments t arguments
  (outcome.output.flatMap Output.texts).forM fun text => IO.println (String.ofList text)
  writeChanges t outcome.tree
  return outcome.exitCode.toUInt32
