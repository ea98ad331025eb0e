/-
Values of YAML documents. Tags say what a node must be; a mapping can take over the entries of
others, its own entries coming last. Lists and mappings cannot be keys.
-/
import MarkdownStyle.Yaml.Node
import MarkdownStyle.Yaml.Plain

namespace MarkdownStyle.Yaml

/-- The kind that a tag of the common schema names. -/
def schemaKind (tag : Text) : Option String :=
  let schema := "tag:yaml.org,2002:".toList
  if tag.take schema.length == schema then some (String.ofList (tag.drop schema.length)) else none

/-- Whether a node without a known tag, or with one of the given kind. -/
def hasKind (tag : Option Text) (kind : String) : Bool := tag.all fun t => schemaKind t == some kind

/-- What there is, or no value at all. -/
def wellFormed {α : Type} (a : Option α) : Except NodeFault α := a.elim (.error .malformed) .ok

/-- The value of a scalar; the signs for taking over entries and for a default are no values. -/
def scalarValue (tag : Option Text) (text : Text) (plain : Bool) : Except NodeFault YamlObject :=
  let word := String.ofList text
  match tag with
  | none =>
    if !plain then .ok (.str word)
    else if word == "<<" || word == "=" then .error .malformed
    else plainValue text
  | some tag =>
    match schemaKind tag with
    | some "str" => .ok (.str word)
    | some "null" => .ok .null
    | some "bool" =>
      let lower := word.toLower
      if trueWords.contains lower then .ok (.bool true)
      else if falseWords.contains lower then .ok (.bool false)
      else .error .malformed
    | some "int" => wellFormed ((integer? text).map .int)
    | some "float" =>
      match float? text, integer? text with
      | some x, _ => .ok (.float x)
      | none, some n => .ok (.float (Float.ofInt n))
      | none, none => .error .malformed
    | some "timestamp" => wellFormed (timestamp? text) >>= dateOf
    | _ => .error .malformed

def isMergeKey (n : Node) : Bool :=
  match n with
  | .scalar none text plain => plain && text == ['<', '<']
  | .scalar (some tag) _ _ => schemaKind tag == some "merge"
  | _ => false

/-- A value that can be a key. -/
def keyOf (o : YamlObject) : Except NodeFault YamlObject :=
  match o with
  | .list _ | .map _ => .error .malformed
  | o => .ok o

mutual

def Node.value : Node → Except NodeFault YamlObject
  | .scalar tag text plain => scalarValue tag text plain
  | .list tag items =>
    if hasKind tag "seq" then (listValues items).map .list else .error .malformed
  | .map tag entries =>
    if hasKind tag "map" then (mapEntries entries).map fun (merged, own) => .map (merged ++ own)
    else .error .malformed

def listValues : List Node → Except NodeFault (List YamlObject)
  | [] => .ok []
  | n :: rest => do return (← n.value) :: (← listValues rest)

/-- The entries that a mapping takes over, and its own. -/
def mapEntries : List (Node × Node) →
    Except NodeFault (List (YamlObject × YamlObject) × List (YamlObject × YamlObject))
  | [] => .ok ([], [])
  | (key, value) :: rest =>
    if isMergeKey key then do
      let taken ← mergedEntries value
      let (merged, own) ← mapEntries rest
      return (taken ++ merged, own)
    else do
      let key ← keyValue key
      let value ← value.value
      let (merged, own) ← mapEntries rest
      return (merged, (key, value) :: own)

def keyValue : Node → Except NodeFault YamlObject
  | .scalar none ['='] true => .ok (.str "=")
  | n => n.value >>= keyOf

/-- The entries of a mapping, or of the mappings of a list, the last of them first. -/
def mergedEntries : Node → Except NodeFault (List (YamlObject × YamlObject))
  | .map _ entries => (mapEntries entries).map fun (merged, own) => merged ++ own
  | .list _ items => mergedItems items
  | .scalar .. => .error .malformed

def mergedItems : List Node → Except NodeFault (List (YamlObject × YamlObject))
  | [] => .ok []
  | .map _ entries :: rest => do
    let (merged, own) ← mapEntries entries
    return (← mergedItems rest) ++ (merged ++ own)
  | _ => .error .malformed

end

/-- Loads a YAML text; an empty one has no value to speak of and is null. -/
def load (t : Text) : Loaded :=
  match wellFormed (Node.ofText? t) >>= Node.value with
  | .ok o => .object o
  | .error .malformed => .malformed
  | .error (.noDate message) => .failed message

end MarkdownStyle.Yaml
