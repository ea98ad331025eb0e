/-
Binary fractions `m · 2 ^ e`: what a floating point number stands for exactly, its order among the
integers, and the rounding of a quotient to 53 significant bits.
-/
namespace MarkdownStyle

/-- A power of two; a negative exponent counts as zero. -/
def twoTo (e : Int) : Nat := Nat.pow 2 e.toNat

/-- The number `mantissa * 2 ^ exponent`. -/
structure BinaryFraction where
  mantissa : Int
  exponent : Int
deriving DecidableEq

namespace BinaryFraction

/-- The numerator over the power of two `denominator`. -/
def numerator (x : BinaryFraction) : Int := x.mantissa * twoTo x.exponent

def denominator (x : BinaryFraction) : Nat := twoTo (-x.exponent)

/-- The integer part, toward zero. -/
def truncate (x : BinaryFraction) : Int := x.numerator.tdiv x.denominator

/-- The order of a binary fraction and an integer. -/
def compareInt (x : BinaryFraction) (n : Int) : Ordering := compare x.numerator (n * x.denominator)

/-! ## Rounding -/

/-- The nearest integer to a quotient of naturals; a half goes to the even neighbour. -/
def roundQuotient (num den : Nat) : Nat :=
  let below := num / den
  let twice := 2 * (num % den)
  if twice < den || (twice == den && below % 2 == 0) then below else below + 1

/-- The exponent at which a positive quotient has 53 bits in front of the point. -/
def quotientExponent (num den : Nat) : Int :=
  let e : Int := (Nat.log2 num : Int) - Nat.log2 den - 52
  if num * twoTo (-e) < twoTo 52 * (den * twoTo e) then e - 1 else e

/-- The quotient rounded to 53 significant bits. -/
def ofQuotient (num : Int) (den : Nat) : BinaryFraction :=
  if num = 0 then ⟨0, 0⟩
  else
    let e := quotientExponent num.natAbs den
    let m : Nat := roundQuotient (num.natAbs * twoTo (-e)) (den * twoTo e)
    ⟨num.sign * m, e⟩

/-- The sum with one half, rounded to 53 significant bits. -/
def addHalf (x : BinaryFraction) : BinaryFraction :=
  ofQuotient (2 * x.numerator + x.denominator) (2 * x.denominator)

end BinaryFraction

/-! ## Floating point numbers -/

/-- The exact value of a finite floating point number without its sign, as mantissa and exponent. -/
def magnitude (x : Float) : Nat × Int :=
  let bits := x.toBits.toNat
  let fraction := bits % twoTo 52
  let field := bits / twoTo 52 % twoTo 11
  if field = 0 then (fraction, -1074) else (twoTo 52 + fraction, (field : Int) - 1075)

/-- Whether the sign bit is set. -/
def isNegativeFloat (x : Float) : Bool := x.toBits.toNat / twoTo 63 == 1

/-- The order of a floating point number and an integer; none for what is not a number. -/
def compareFloatInt (x : Float) (n : Int) : Option Ordering :=
  if x.isNaN then none
  else if x.isInf then some (if isNegativeFloat x then .lt else .gt)
  else
    let (m, e) := magnitude x
    some (BinaryFraction.compareInt ⟨if isNegativeFloat x then -m else m, e⟩ n)

end MarkdownStyle
