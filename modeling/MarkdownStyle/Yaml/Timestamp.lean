/-
Plain scalars that are dates, with or without a time of the day and a zone. Some of them are written like
dates but are none, and cannot be read.
-/
import MarkdownStyle.Decimal.Read

namespace MarkdownStyle.Yaml

structure TimeOfDay where
  hour : Nat
  minute : Nat
  second : Nat
  /-- How far the zone is from the common time, in minutes. -/
  offset : Nat

structure Timestamp where
  year : Nat
  month : Nat
  day : Nat
  time : Option TimeOfDay

/-! ## Reading -/

/-- Digits at the start of a text, at most `most` and at least `least` of them. -/
def someDigits? (least most : Nat) (t : Text) : Option (Nat × Text) :=
  let digits := (t.take most).takeWhile Char.isDigit
  if digits.length < least then none else some (digitsValue digits, t.drop digits.length)

/-- A number of one or two digits behind a character. -/
def pairBehind? (c : Char) (least : Nat) (t : Text) : Option (Nat × Text) :=
  match t with
  | d :: rest => if d == c then someDigits? least 2 rest else none
  | [] => none

def isGap (c : Char) : Bool := c == ' ' || c == '\t'

/-- The zone at the end of a time. -/
def zoneOffset? (t : Text) : Option Nat :=
  if t.isEmpty then some 0
  else
    match t.dropWhile isGap with
    | ['Z'] => some 0
    | sign :: rest =>
      if sign == '-' || sign == '+' then do
        let (hours, rest) ← someDigits? 1 2 rest
        if rest.isEmpty then return 60 * hours
        let (minutes, rest) ← pairBehind? ':' 2 rest
        if rest.isEmpty then return 60 * hours + minutes else none
      else none
    | [] => none

/-- A time of the day with its zone. Fractions of a second are not kept. -/
def timeOfDay? (t : Text) : Option TimeOfDay := do
  let (hour, t) ← someDigits? 1 2 t
  let (minute, t) ← pairBehind? ':' 2 t
  let (second, t) ← pairBehind? ':' 2 t
  let t := if t.head? == some '.' then (t.drop 1).dropWhile Char.isDigit else t
  return ⟨hour, minute, second, ← zoneOffset? t⟩

/-- A date by itself has all its digits; one with a time behind it may lack leading zeros. -/
def timestamp? (t : Text) : Option Timestamp := do
  let (year, rest) ← someDigits? 4 4 t
  let (month, rest) ← pairBehind? '-' 1 rest
  let (day, rest) ← pairBehind? '-' 1 rest
  match rest with
  | [] => if t.length == 10 then return ⟨year, month, day, none⟩ else none
  | c :: clock =>
    if c == 'T' || c == 't' then return ⟨year, month, day, some (← timeOfDay? clock)⟩
    else if isGap c then return ⟨year, month, day, some (← timeOfDay? (clock.dropWhile isGap))⟩
    else none

/-! ## Dates that are none -/

def isLeap (year : Nat) : Bool := year % 4 == 0 && (year % 100 != 0 || year % 400 == 0)

def daysIn (year month : Nat) : Nat :=
  if month == 2 then if isLeap year then 29 else 28
  else if [4, 6, 9, 11].contains month then 30
  else 31

/-- What is wrong with a date, if anything. -/
def Timestamp.fault? (x : Timestamp) : Option String :=
  let faults := [
    (x.time.any (24 * 60 ≤ ·.offset), "offset must be a timedelta strictly between " ++
      "-timedelta(hours=24) and timedelta(hours=24)"),
    (x.year == 0, "year 0 is out of range"),
    (x.month == 0 || 12 < x.month, "month must be in 1..12"),
    (x.day == 0 || daysIn x.year x.month < x.day, "day is out of range for month"),
    (x.time.any (23 < ·.hour), "hour must be in 0..23"),
    (x.time.any (59 < ·.minute), "minute must be in 0..59"),
    (x.time.any (59 < ·.second), "second must be in 0..59")]
  (faults.find? (·.1)).map (·.2)

end MarkdownStyle.Yaml
