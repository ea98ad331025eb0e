/-
Values of configurations: what a setting or an option can hold, and mappings between them. A
mapping keeps the order in which its keys first came; numbers and truth values that are equal are
one key.
-/
import MarkdownStyle.Decimal.Binary

namespace MarkdownStyle

inductive Value where
  | null
  | bool (b : Bool)
  | int (n : Int)
  | float (x : Float)
  | str (s : String)
  | list (items : List Value)
  | map (entries : List (Value × Value))
deriving Inhabited

/-- Entries in order, no two with the same key. -/
abbrev Mapping := List (Value × Value)

/-! ## Keys -/

/-- The integer that a truth value or an integer counts as. -/
def Value.integer? : Value → Option Int
  | bool b => some (if b then 1 else 0)
  | int n => some n
  | _ => none

/-- Whether two values are the same key. Lists and mappings are no keys. -/
def Value.sameKey (a b : Value) : Bool :=
  match a, b with
  | null, null => true
  | str s, str t => s == t
  | float x, float y => x == y
  | float x, other | other, float x => (other.integer?.bind (compareFloatInt x)) == some .eq
  | _, _ =>
    match a.integer?, b.integer? with
    | some m, some n => m == n
    | _, _ => false

namespace Mapping

def get? (m : Mapping) (key : Value) : Option Value :=
  (List.find? (·.1.sameKey key) m).map (·.2)

def has (m : Mapping) (key : Value) : Bool := m.any (·.1.sameKey key)

/-- Gives a key a value: in its old place, or at the end if it is new. -/
def insert (m : Mapping) (key value : Value) : Mapping :=
  match m with
  | [] => [(key, value)]
  | (k, v) :: rest =>
    if k.sameKey key then (k, value) :: rest else (k, v) :: Mapping.insert rest key value

/-- The mapping of a list of entries; of entries with one key the last value counts. -/
def ofList (entries : List (Value × Value)) : Mapping :=
  entries.foldl (fun m e => m.insert e.1 e.2) []

end Mapping

end MarkdownStyle
