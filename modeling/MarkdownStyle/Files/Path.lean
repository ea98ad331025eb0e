/-
Paths of files, as lists of names. Names that lead nowhere new are dropped from a path; names that
lead upward are kept. Paths are ordered by their names.
-/
import MarkdownStyle.Text.Case

namespace MarkdownStyle

/-- Where a path starts: in the current directory, or at the root. A root that is written as exactly
two slashes is another one than the root of one slash, though both are the same place. -/
inductive Anchor where
  | current
  | root
  | doubleRoot
deriving DecidableEq

namespace Anchor

def ofString (s : String) : Anchor :=
  match s.toList with
  | '/' :: '/' :: '/' :: _ => root
  | '/' :: '/' :: _ => doubleRoot
  | '/' :: _ => root
  | _ => current

def text : Anchor → String
  | current => ""
  | root => "/"
  | doubleRoot => "//"

end Anchor

structure Path where
  anchor : Anchor
  parts : List String
deriving DecidableEq

namespace Path

/-- Whether a path is followed from the root. -/
def isAbsolute (p : Path) : Bool := p.anchor != .current

/-- The pieces of a text between slashes. -/
def pieces (s : String) : List String :=
  (s.toList.foldr (fun c parts =>
    if c == '/' then [] :: parts
    else
      match parts with
      | [] => [[c]]
      | part :: rest => (c :: part) :: rest) [[]]).map String.ofList

/-- The name for the directory that a path has reached. -/
def here : String := "."

/-- The name for the directory above the one that a path has reached. -/
def above : String := ".."

def ofString (s : String) : Path :=
  ⟨.ofString s, (pieces s).filter fun part => part != "" && part != here⟩

def toString (p : Path) : String :=
  if !p.isAbsolute && p.parts.isEmpty then here
  else p.anchor.text ++ String.intercalate "/" p.parts

/-- The path of something below this one. -/
def below (p : Path) (parts : List String) : Path := { p with parts := p.parts ++ parts }

/-- What paths are ordered by. The root of an absolute path counts as its first name. -/
def key (p : Path) : List String := if p.isAbsolute then p.anchor.text :: p.parts else p.parts

/-- Whether names come before others by their first difference, or are the same. -/
def namesNotAfter : List String → List String → Bool
  | [], _ => true
  | _ :: _, [] => false
  | a :: as, b :: bs => decide (a < b) || (a == b && namesNotAfter as bs)

/-- Whether a path comes before another one, or is it. -/
def notAfter (p q : Path) : Bool := namesNotAfter p.key q.key

end Path

/-- The end of a name from its last dot on; a dot at the start or at the end of a name counts for
nothing. -/
def suffix (name : String) : Text :=
  let reversed := name.toList.reverse
  let tail := reversed.takeWhile (· != '.')
  match reversed.drop tail.length with
  | _ :: _ :: _ => if tail.isEmpty then [] else '.' :: tail.reverse
  | _ => []

/-- Whether a name is one that lists of files leave out. -/
def isHidden (name : String) : Bool := name.startsWith "."

/-- Whether a name has a suffix of Markdown files, in any case. -/
def isMarkdown (name : String) : Bool :=
  let lower := String.ofList (Text.lower (suffix name))
  lower == ".md" || lower == ".markdown"

end MarkdownStyle
