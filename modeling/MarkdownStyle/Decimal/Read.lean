/-
Reading decimal text as a floating point number, rounded to the nearest.
-/
import MarkdownStyle.Text.Basic

namespace MarkdownStyle

/-- The number that a run of decimal digits stands for. -/
def digitsValue (digits : Text) : Nat := digits.foldl (fun n c => 10 * n + (c.toNat - 48)) 0

/-- The number `c · 10 ^ p`, without bounds on `p` that would not fit a floating point number. -/
def decimalFloat (c : Nat) (p : Int) : Float :=
  let length : Int := c.repr.length
  if c = 0 || p + length < -400 then 0.0
  else if 400 < p + length then 1.0 / 0.0
  else if p < 0 then Float.ofScientific c true p.natAbs else Float.ofScientific c false p.natAbs

/-- An exponent: the letter, an optional sign and digits. No text at all is a zero. -/
def exponent? (t : Text) : Option Int :=
  match t with
  | [] => some 0
  | e :: rest =>
    if e == 'e' || e == 'E' then
      let (negative, digits) :=
        match rest with
        | '-' :: digits => (true, digits)
        | '+' :: digits => (false, digits)
        | digits => (false, digits)
      if digits.isEmpty || !digits.all Char.isDigit then none
      else some (if negative then -(digitsValue digits : Int) else digitsValue digits)
    else none

/-- An unsigned decimal: digits with a point anywhere in them, and an exponent. -/
def unsignedFloat? (t : Text) : Option Float :=
  let (whole, rest) := Text.span Char.isDigit t
  let (fraction, rest) :=
    match rest with
    | '.' :: rest => Text.span Char.isDigit rest
    | rest => ([], rest)
  if whole.isEmpty && fraction.isEmpty then none
  else
    let c := digitsValue (whole ++ fraction)
    (exponent? rest).map fun p => decimalFloat c (p - fraction.length)

/-- A decimal with an optional sign, or one of the words for infinity and for no number. -/
def floatOfText? (t : Text) : Option Float :=
  let (negative, size) :=
    match t with
    | '-' :: rest => (true, rest)
    | '+' :: rest => (false, rest)
    | _ => (false, t)
  let signed (x : Float) : Float := if negative then -x else x
  if size == "inf".toList then some (signed (1.0 / 0.0))
  else if size == "nan".toList then some (0.0 / 0.0)
  else (unsignedFloat? size).map signed

end MarkdownStyle
