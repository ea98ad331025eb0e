/-
Sets of characters and maps on characters, given as tables of code point ranges. A table of
`Ranges` is ascending, so a search stops at the first range above the character; a table of
`Strides` takes every `step`-th code point of each range.
-/
namespace MarkdownStyle

/-- Ascending, disjoint ranges of code points, both ends included. -/
abbrev Ranges := List (Nat × Nat)

/-- Whether a code point lies in one of the ranges. -/
def Ranges.hasPoint : Ranges → Nat → Bool
  | [], _ => false
  | (first, last) :: rest, n => if n < first then false else n ≤ last || Ranges.hasPoint rest n

def Ranges.has (ranges : Ranges) (c : Char) : Bool := ranges.hasPoint c.toNat

/-- A range of code points of which only every `step`-th belongs. -/
structure Stride where
  first : Nat
  last : Nat
  step : Nat

def Stride.hasPoint (s : Stride) (n : Nat) : Bool :=
  s.first ≤ n && n ≤ s.last && (n - s.first) % s.step == 0

def hasStride (strides : List Stride) (c : Char) : Bool := strides.any (·.hasPoint c.toNat)

/-- The code points of a stride move by `shift`. -/
structure Shift extends Stride where
  shift : Int

/-- A map on characters: strides that move by a distance, and characters with several images. -/
structure CharMap where
  shifts : List Shift
  expansions : List (Nat × List Nat)

/-- The image of a character, which is the character itself where the tables are silent. -/
def CharMap.image (m : CharMap) (c : Char) : List Char :=
  match m.shifts.find? (·.hasPoint c.toNat) with
  | some s => [Char.ofNat (c.toNat + s.shift).toNat]
  | none =>
    match m.expansions.lookup c.toNat with
    | some points => points.map Char.ofNat
    | none => [c]

end MarkdownStyle
