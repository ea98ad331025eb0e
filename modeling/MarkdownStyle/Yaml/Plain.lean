/-
What plain scalars stand for: nothing, truth values, integers and floating point numbers in their
various notations, dates, and else texts.
-/
import MarkdownStyle.Config.Loaded
import MarkdownStyle.Yaml.Timestamp

namespace MarkdownStyle.Yaml

/-! ## Nothing and truth values -/

def nullWords : List String := ["", "~", "null", "Null", "NULL"]

def trueWords : List String := ["yes", "Yes", "YES", "true", "True", "TRUE", "on", "On", "ON"]

def falseWords : List String := ["no", "No", "NO", "false", "False", "FALSE", "off", "Off", "OFF"]

/-! ## Digits -/

/-- Splits off a sign. -/
def splitSign (t : Text) : Bool × Text :=
  match t with
  | '-' :: rest => (true, rest)
  | '+' :: rest => (false, rest)
  | _ => (false, t)

def isDigitOrBar (c : Char) : Bool := c.isDigit || c == '_'

/-- The value of digits in a base, bars between them left out; at least one digit must remain. -/
def digitsIn (base : Nat) (isDigit : Char → Bool) (t : Text) : Option Nat :=
  let digits := t.filter (· != '_')
  if digits.isEmpty || !digits.all isDigit then none
  else
    let value (c : Char) : Nat := if c.isDigit then c.toNat - 48 else c.toLower.toNat - 87
    some (digits.foldl (fun n c => base * n + value c) 0)

/-- The parts of a number between colons. -/
def colonParts (t : Text) : List Text :=
  t.foldr (fun c parts =>
    if c == ':' then [] :: parts
    else
      match parts with
      | [] => [[c]]
      | part :: rest => (c :: part) :: rest) [[]]

/-- Whether a part behind a colon is a number below sixty. -/
def isSixtieth (t : Text) : Bool :=
  match t with
  | [a] => a.isDigit
  | [a, b] => '0' ≤ a && a ≤ '5' && b.isDigit
  | _ => false

/-- Whether a part starts with a digit and goes on with digits and bars. -/
def isDigits (t : Text) : Bool := t.head?.any Char.isDigit && t.all isDigitOrBar

/-! ## Integers -/

/-- An unsigned integer: binary, octal, hexadecimal, decimal or in base sixty. -/
def natural? (t : Text) : Option Nat :=
  match t with
  | ['0'] => some 0
  | '0' :: 'b' :: rest => digitsIn 2 (fun c => c == '0' || c == '1') rest
  | '0' :: 'x' :: rest =>
    digitsIn 16 (fun c => c.isDigit || ('a' ≤ c.toLower && c.toLower ≤ 'f')) rest
  | '0' :: rest =>
    if rest.all (· == '_') then some 0 else digitsIn 8 (fun c => '0' ≤ c && c ≤ '7') rest
  | _ =>
    match colonParts t with
    | [part] => if isDigits part then digitsIn 10 Char.isDigit part else none
    | first :: rest =>
      if isDigits first && rest.all isSixtieth then
        let most := digitsValue (first.filter (· != '_'))
        some (rest.foldl (fun n part => 60 * n + digitsValue part) most)
      else none
    | [] => none

def integer? (t : Text) : Option Int :=
  let (negative, size) := splitSign t
  (natural? size).map fun n => if negative then -(n : Int) else n

/-! ## Floating point numbers -/

/-- Digits with a point: in front of it at least one digit, or else directly behind it. An exponent
needs a sign. -/
def isPointed (signed : Bool) (t : Text) : Bool :=
  let (whole, rest) := Text.span isDigitOrBar t
  match rest with
  | '.' :: rest =>
    let (fraction, rest) := Text.span isDigitOrBar rest
    let placed := if whole.isEmpty then !signed && isDigits fraction else isDigits whole
    placed &&
      match rest with
      | [] => true
      | e :: sign :: digits =>
        (e == 'e' || e == 'E') && (sign == '+' || sign == '-') && !digits.isEmpty &&
          digits.all Char.isDigit
      | _ => false
  | _ => false

/-- A number in base sixty with a point in its last part. -/
def sixtieths? (t : Text) : Option Float :=
  match (colonParts t).reverse with
  | last :: middle =>
    let (whole, rest) := Text.span Char.isDigit last
    match middle.reverse, rest with
    | first :: between, '.' :: fraction =>
      if isDigits first && between.all isSixtieth && isSixtieth whole && fraction.all isDigitOrBar then
        let number (t : Text) : Option Float := unsignedFloat? (t.filter (· != '_'))
        let add (total : Float × Float) (part : Float) : Float × Float :=
          (total.1 + part * total.2, total.2 * 60.0)
        let parts := ((first :: between) ++ [last]).mapM number
        parts.map fun parts => (parts.reverse.foldl add (0.0, 1.0)).1
      else none
    | _, _ => none
  | [] => none

def float? (t : Text) : Option Float :=
  let (negative, size) := splitSign t
  let signed := size.length < t.length
  let word := String.ofList size
  let found :=
    if [".inf", ".Inf", ".INF"].contains word then some (1.0 / 0.0)
    else if !signed && [".nan", ".NaN", ".NAN"].contains word then some (0.0 / 0.0)
    else if isPointed signed size then unsignedFloat? (size.filter (· != '_'))
    else sixtieths? size
  found.map fun x => if negative then -x else x

/-! ## Values -/

/-- Why a node has no value. -/
inductive NodeFault where
  | malformed
  /-- A scalar is written like a date but is none. -/
  | noDate (message : String)

/-- The date in a scalar that is written like one. -/
def dateOf (x : Timestamp) : Except NodeFault YamlObject :=
  match x.fault? with
  | some message => .error (.noDate message)
  | none => .ok .other

/-- The value of a plain scalar. -/
def plainValue (t : Text) : Except NodeFault YamlObject :=
  let word := String.ofList t
  if nullWords.contains word then .ok .null
  else if trueWords.contains word then .ok (.bool true)
  else if falseWords.contains word then .ok (.bool false)
  else
    match float? t, integer? t, timestamp? t with
    | some x, _, _ => .ok (.float x)
    | none, some n, _ => .ok (.int n)
    | none, none, some x => dateOf x
    | none, none, none => .ok (.str word)

end MarkdownStyle.Yaml
