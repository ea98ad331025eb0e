/-
Values as texts, the way messages and tables show them: keywords for nothing and truth values,
quoted strings with escapes for what is not printable, brackets around lists and mappings.
-/
import MarkdownStyle.Decimal.Shortest
import MarkdownStyle.Text.Basic
import MarkdownStyle.Text.Printable
import MarkdownStyle.Value.Basic

namespace MarkdownStyle

/-! ## Quoted strings -/

def apostrophe : Char := '\x27'

/-- Hexadecimal digits in lower case, filled up with zeros to `width`. -/
def hexText (width n : Nat) : Text :=
  let digits := Nat.toDigits 16 n
  List.replicate (width - digits.length) '0' ++ digits

/-- A character inside the given quotes. -/
def quotedChar (quote c : Char) : Text :=
  if c == quote || c == '\\' then ['\\', c]
  else if c == '\t' then ['\\', 't']
  else if c == '\n' then ['\\', 'n']
  else if c == '\r' then ['\\', 'r']
  else if Text.isPrintable c then [c]
  else if c.toNat ≤ 0xFF then '\\' :: 'x' :: hexText 2 c.toNat
  else if c.toNat ≤ 0xFFFF then '\\' :: 'u' :: hexText 4 c.toNat
  else '\\' :: 'U' :: hexText 8 c.toNat

/-- A string in single quotes, or in double quotes if it holds single but no double ones. -/
def quoted (s : String) : String :=
  let t := s.toList
  let quote := if t.contains apostrophe && !t.contains '"' then '"' else apostrophe
  String.ofList ([quote] ++ t.flatMap (quotedChar quote) ++ [quote])

/-! ## Values -/

namespace Value

mutual

/-- The text of a value inside another one. -/
def literal : Value → String
  | null => "None"
  | bool b => if b then "True" else "False"
  | int n => toString n
  | float x => floatText x
  | str s => quoted s
  | list items => "[" ++ String.intercalate ", " (literals items) ++ "]"
  | map entries => "\x7b" ++ String.intercalate ", " (entryLiterals entries) ++ "\x7d"

def literals : List Value → List String
  | [] => []
  | v :: rest => v.literal :: literals rest

def entryLiterals : List (Value × Value) → List String
  | [] => []
  | (k, v) :: rest => (k.literal ++ ": " ++ v.literal) :: entryLiterals rest

end

/-- The text of a value on its own, where a string needs no quotes. -/
def text : Value → String
  | str s => s
  | v => v.literal

/-- The name of the kind of value. -/
def kindName : Value → String
  | null => "NoneType"
  | bool _ => "bool"
  | int _ => "int"
  | float _ => "float"
  | str _ => "str"
  | list _ => "list"
  | map _ => "dict"

end Value

end MarkdownStyle
