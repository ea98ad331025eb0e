/-
Decimal text of floating point numbers: the fewest digits that read back as the same number, of
those the ones nearest to it, with a point in them or behind an exponent.
-/
import MarkdownStyle.Decimal.Binary

namespace MarkdownStyle

/-! ## Digits -/

/-- A power of ten; a negative exponent counts as zero. -/
def tenTo (e : Int) : Nat := Nat.pow 10 e.toNat

/-- The decimals that read as a given number: those between `low / den` and `high / den`, the ends
included where `closed` is set. `num / den` is the number itself. -/
structure RoundingInterval where
  low : Nat
  num : Nat
  high : Nat
  den : Nat
  closed : Bool

namespace RoundingInterval

/-- The interval of the number `m · 2 ^ e`. Below a power of two the gap to the next smaller
number is half as wide. -/
def of (m : Nat) (e : Int) : RoundingInterval :=
  let scale := twoTo (e - 2)
  let low := if m = twoTo 52 && -1074 < e then 4 * m - 1 else 4 * m - 2
  ⟨low * scale, 4 * m * scale, (4 * m + 2) * scale, twoTo (2 - e), m % 2 == 0⟩

/-- Whether `c · 10 ^ p` lies in the interval. -/
def has (i : RoundingInterval) (c : Nat) (p : Int) : Bool :=
  let value := c * tenTo p * i.den
  let scale := tenTo (-p)
  if i.closed then i.low * scale ≤ value && value ≤ i.high * scale
  else i.low * scale < value && value < i.high * scale

/-- The power of ten of the first digit of the number. -/
def leading (i : RoundingInterval) : Int :=
  if i.den ≤ i.num then (((i.num / i.den).repr.length : Nat) : Int) - 1
  else -(((List.range 400).find? fun (j : Nat) => i.den ≤ i.num * tenTo (j + 1)).getD 0 + 1 : Nat)

/-- The multiple of `10 ^ p` in the interval that is nearest to the number, the even one of two
that are equally near. -/
def nearest? (i : RoundingInterval) (p : Int) : Option Nat :=
  let num := i.num * tenTo (-p)
  let den := i.den * tenTo p
  let below := num / den
  match i.has below p, i.has (below + 1) p with
  | true, true => some (BinaryFraction.roundQuotient num den)
  | true, false => some below
  | false, true => some (below + 1)
  | false, false => none

/-- The shortest digits of the number, with the power of ten that they count. -/
def digits (i : RoundingInterval) : Nat × Int :=
  let tries := (List.range 17).map fun (n : Nat) => i.leading - (n : Int)
  (tries.findSome? fun p => (i.nearest? p).map (·, p)).getD (0, 0)

end RoundingInterval

/-! ## Notation -/

/-- The digits of a number without trailing zeros, and the place of the point behind the first
`point` of them. -/
structure PointedDigits where
  digits : List Char
  point : Int

def PointedDigits.of (x : Float) : PointedDigits :=
  let (m, e) := magnitude x
  if m = 0 then ⟨['0'], 1⟩
  else
    let (c, p) := (RoundingInterval.of m e).digits
    let all := c.repr.toList
    ⟨(all.reverse.dropWhile (· == '0')).reverse, (all.length : Int) + p⟩

/-- Points within or near the digits are written out, down to three zeros behind the point and up
to sixteen digits in front of it; numbers beyond get an exponent of at least two digits. -/
def PointedDigits.text (d : PointedDigits) : List Char :=
  let count := d.digits.length
  if -4 < d.point && d.point ≤ 16 then
    if d.point ≤ 0 then ['0', '.'] ++ List.replicate (-d.point).toNat '0' ++ d.digits
    else
      let whole := d.point.toNat
      if count ≤ whole then d.digits ++ List.replicate (whole - count) '0' ++ ['.', '0']
      else d.digits.take whole ++ ['.'] ++ d.digits.drop whole
  else
    let power := d.point - 1
    let size := power.natAbs.repr.toList
    let fraction := d.digits.drop 1
    d.digits.take 1 ++ (if fraction.isEmpty then [] else '.' :: fraction) ++
      ['e', if power < 0 then '-' else '+'] ++ List.replicate (2 - size.length) '0' ++ size

/-- The text of a floating point number. -/
def floatText (x : Float) : String :=
  if x.isNaN then "nan"
  else
    let sign := if isNegativeFloat x then "-" else ""
    if x.isInf then sign ++ "inf" else sign ++ String.ofList (PointedDigits.of x).text

end MarkdownStyle
