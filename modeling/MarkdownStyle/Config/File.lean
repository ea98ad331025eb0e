/-
Configuration files: reading one, and finding the nearest one above a directory.
-/
import MarkdownStyle.Config.Basic
import MarkdownStyle.Config.Loaded
import MarkdownStyle.Files.Tree

namespace MarkdownStyle

/-- The configuration that was loaded. A text without a value is an empty configuration. -/
def configOfLoaded (path : String) (loaded : Loaded) : Except ConfigFault Mapping :=
  match loaded with
  | .object .null => .ok []
  | .object (.map entries) => .ok (Mapping.ofList (YamlObject.entryValues entries))
  | .object _ => .error (.notMapping path)
  | .malformed => .error (.notYaml path)
  | .failed message => .error (.loaderFailed message)

/-- The configuration in a file, where `name` is what the file is called in messages. -/
def loadConfigAs (load : Text → Loaded) (t : FileTree) (p : Path) (name : String) :
    Except ConfigFault Mapping :=
  match t.readText p with
  | .ok text => configOfLoaded name (load text)
  | .error e => .error (.unreadable name (e.message name))

def loadConfig (load : Text → Loaded) (t : FileTree) (p : Path) : Except ConfigFault Mapping :=
  loadConfigAs load t p p.toString

/-- The names of configuration files, in order of preference. -/
def configNames : List String := [".mdlint.yaml", ".mdlint.yml"]

/-- The place that names lead to without regard to what is there. -/
def resolveNames? (t : FileTree) (place : List String) : List String → Option (List String)
  | [] => some place
  | name :: rest =>
    if name == Path.above then (t.above? place).bind fun place => resolveNames? t place rest
    else resolveNames? t (place ++ [name]) rest

/-- The configuration file in a directory. -/
def configIn? (t : FileTree) (place : List String) : Option (List String) :=
  (configNames.map fun name => place ++ [name]).find? fun place =>
    match t.top.at? place with
    | some (.file _) => true
    | _ => false

/-- A place and all places above it, from the inside out. -/
def withParents (place : List String) : List (List String) :=
  (List.range (place.length + 1)).reverse.map place.take

/-- The nearest configuration file in a directory or above it. -/
def nearestConfig? (t : FileTree) (start : Path) : Option (List String) := do
  let place ← resolveNames? t (t.start start) start.parts
  (withParents place).findSome? (configIn? t)

end MarkdownStyle
