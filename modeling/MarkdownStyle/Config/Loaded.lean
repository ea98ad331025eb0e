/-
What a loader of YAML makes of a text. A configuration is read off from the objects of a loader; the
loader itself is no part of that.
-/
import MarkdownStyle.Value.Basic

namespace MarkdownStyle

inductive YamlObject where
  | null
  | bool (b : Bool)
  | int (n : Int)
  | float (x : Float)
  | str (s : String)
  | list (items : List YamlObject)
  | map (entries : List (YamlObject × YamlObject))
  /-- A date, a set, bytes, or whatever else is none of the others. -/
  | other

namespace YamlObject

mutual

/-- The object as a value of a configuration. An object that is none of its kinds counts as null, which
is refused wherever it is. -/
def value : YamlObject → Value
  | null | other => .null
  | bool b => .bool b
  | int n => .int n
  | float x => .float x
  | str s => .str s
  | list items => .list (values items)
  | map entries => .map (Mapping.ofList (entryValues entries))

def values : List YamlObject → List Value
  | [] => []
  | o :: rest => o.value :: values rest

def entryValues : List (YamlObject × YamlObject) → List (Value × Value)
  | [] => []
  | (key, o) :: rest => (key.value, o.value) :: entryValues rest

end

end YamlObject

/-- What came of loading a text. -/
inductive Loaded where
  | object (o : YamlObject)
  /-- The text is no YAML. -/
  | malformed
  /-- The loader stopped with another error of its own and with a message. -/
  | failed (message : String)

end MarkdownStyle
