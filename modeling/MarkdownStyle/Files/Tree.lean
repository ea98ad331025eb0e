/-
File trees as values: directories with named entries and files with bytes. Paths are followed name
by name, upward names included, so every name on the way must be there. Above the root of a file system
there is the root again; what is above the top of any other tree is not part of it.
-/
import MarkdownStyle.Files.Path
import MarkdownStyle.Text.Lines
import MarkdownStyle.Text.Utf8

namespace MarkdownStyle

inductive Entry where
  | file (content : Bytes)
  | directory (entries : List (String × Entry))
deriving Inhabited

/-! ## Errors -/

/-- Why the content of a path cannot be had. -/
inductive FileError where
  | missing
  | notDirectory
  | isDirectory
  | undecodable (error : Utf8Error)
deriving DecidableEq

def FileError.message (path : String) : FileError → String
  | missing => "[Errno 2] No such file or directory: " ++ quoted path
  | notDirectory => "[Errno 20] Not a directory: " ++ quoted path
  | isDirectory => "[Errno 21] Is a directory: " ++ quoted path
  | undecodable error => error.message

/-! ## Entries -/

namespace Entry

def isDirectory : Entry → Bool
  | directory _ => true
  | file _ => false

def entries : Entry → List (String × Entry)
  | directory entries => entries
  | file _ => []

/-- The entry at the end of a list of names. -/
def at? (e : Entry) : List String → Option Entry
  | [] => some e
  | name :: rest =>
    match e.entries.lookup name with
    | some child => child.at? rest
    | none => none

/-- Replaces the entry of a name, or adds one. -/
def setChild (entries : List (String × Entry)) (name : String) (e : Entry) : List (String × Entry) :=
  match entries with
  | [] => [(name, e)]
  | (n, old) :: rest => if n == name then (name, e) :: rest else (n, old) :: setChild rest name e

/-- Puts an entry at the end of a list of names, making directories on the way. -/
def put (e : Entry) (new : Entry) : List String → Entry
  | [] => new
  | name :: rest =>
    let child := (e.entries.lookup name).getD (directory [])
    directory (setChild e.entries name (child.put new rest))

mutual

/-- The names of all files below an entry, with the files. -/
def files : Entry → List (List String × Bytes)
  | file content => [([], content)]
  | directory entries => filesOf entries

def filesOf : List (String × Entry) → List (List String × Bytes)
  | [] => []
  | (name, e) :: rest => (e.files.map fun (names, content) => (name :: names, content)) ++ filesOf rest

end

end Entry

/-! ## Trees -/

/-- A tree, the directory in it that relative paths start from, and the text of the path of its top
in front of absolute paths. No text says that the top is the root of the file system. -/
structure FileTree where
  top : Entry
  current : List String
  label : String

namespace FileTree

/-- Whether the top is the root of the file system. -/
def isWhole (t : FileTree) : Bool := t.label.isEmpty

/-- The place above another one, if the tree has it. -/
def above? (t : FileTree) (place : List String) : Option (List String) :=
  if place.isEmpty && !t.isWhole then none else some place.dropLast

/-- Follows names from a place in the tree. -/
def follow (t : FileTree) (place : List String) : List String → Except FileError (List String)
  | [] => .ok place
  | name :: rest =>
    match t.top.at? place with
    | none => .error .missing
    | some (.file _) => .error .notDirectory
    | some (.directory entries) =>
      if name == "" || name == Path.here then t.follow place rest
      else if name == Path.above then
        match t.above? place with
        | some place => t.follow place rest
        | none => .error .missing
      else if (entries.lookup name).isSome then t.follow (place ++ [name]) rest
      else .error .missing

/-- The place that a path is followed from. -/
def start (t : FileTree) (p : Path) : List String := if p.isAbsolute then [] else t.current

/-- The place that a path leads to, as names from the top. -/
def locate (t : FileTree) (p : Path) : Except FileError (List String) := t.follow (t.start p) p.parts

/-- The entry that a path leads to. -/
def entry? (t : FileTree) (p : Path) : Except FileError Entry := do
  match t.top.at? (← t.locate p) with
  | some e => return e
  | none => .error .missing

/-- The entry that a path leads to as it is written, where a slash at the end asks for a
directory. No path at all leads nowhere. -/
def written? (t : FileTree) (s : String) : Except FileError Entry := do
  if s == "" then .error .missing
  else
    match t.top.at? (← t.follow (t.start (.ofString s)) (Path.pieces s)) with
    | some e => return e
    | none => .error .missing

def isDirectory (t : FileTree) (p : Path) : Bool :=
  match t.entry? p with
  | .ok e => e.isDirectory
  | .error _ => false

/-- The bytes of a file. -/
def readBytes (t : FileTree) (p : Path) : Except FileError Bytes := do
  match ← t.entry? p with
  | .file content => return content
  | .directory _ => .error .isDirectory

/-- The text of a file, with every line end as a line feed. -/
def readText (t : FileTree) (p : Path) : Except FileError Text := do
  match Text.decode (← t.readBytes p) with
  | .ok text => return Text.unifyBreaks text
  | .error e => .error (.undecodable e)

/-- Writes a text to a file that is there. -/
def writeText (t : FileTree) (p : Path) (text : Text) : FileTree :=
  match t.locate p with
  | .ok place => { t with top := t.top.put (.file (Text.encode text)) place }
  | .error _ => t

end FileTree

end MarkdownStyle
