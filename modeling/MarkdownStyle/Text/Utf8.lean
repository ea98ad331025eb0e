/-
UTF-8. Decoding accepts exactly the shortest forms of all characters; a fault is reported with its
place, with the bytes that were read in vain and with what is wrong with them.
-/
import MarkdownStyle.Value.Literal

namespace MarkdownStyle

abbrev Bytes := List UInt8

inductive Utf8Fault where
  /-- No character starts with this byte. -/
  | start
  /-- A byte does not continue the character that was begun. -/
  | continuation
  /-- The text ends inside a character. -/
  | ending
deriving DecidableEq

/-- A fault at a position, after `length` bytes of a character that starts with `lead`. -/
structure Utf8Error where
  fault : Utf8Fault
  position : Nat
  length : Nat
  lead : UInt8
deriving DecidableEq

def Utf8Fault.reason : Utf8Fault → String
  | start => "invalid start byte"
  | continuation => "invalid continuation byte"
  | ending => "unexpected end of data"

def Utf8Error.message (e : Utf8Error) : String :=
  let place :=
    if e.length = 1 then
      "byte 0x" ++ String.ofList (hexText 2 e.lead.toNat) ++ " in position " ++ toString e.position
    else "bytes in position " ++ toString e.position ++ "-" ++ toString (e.position + e.length - 1)
  "'utf-8' codec can't decode " ++ place ++ ": " ++ e.fault.reason

namespace Text

/-- A character that has begun: its bits so far, the continuation bytes still missing, the bounds
of the next one, and the first byte with its position. -/
structure Begun where
  bits : Nat
  missing : Nat
  low : UInt8
  high : UInt8
  lead : UInt8
  position : Nat

/-- What a first byte beyond ASCII begins. Some bound the second byte, so that no character has two
forms and none lies outside the range of characters. -/
def begin? (b : UInt8) (position : Nat) : Option Begun :=
  let begun (low high : UInt8) (missing bits : Nat) : Option Begun :=
    some ⟨bits, missing, low, high, b, position⟩
  if b < 0xC2 then none
  else if b < 0xE0 then begun 0x80 0xBF 1 (b.toNat - 0xC0)
  else if b < 0xF0 then
    begun (if b = 0xE0 then 0xA0 else 0x80) (if b = 0xED then 0x9F else 0xBF) 2 (b.toNat - 0xE0)
  else if b < 0xF5 then
    begun (if b = 0xF0 then 0x90 else 0x80) (if b = 0xF4 then 0x8F else 0xBF) 3 (b.toNat - 0xF0)
  else none

/-- Decodes bytes from a position, inside a character or between two. -/
def decodeFrom (position : Nat) : Option Begun → Bytes → Except Utf8Error Text
  | none, [] => .ok []
  | some g, [] => .error ⟨.ending, g.position, position - g.position, g.lead⟩
  | none, b :: rest =>
    if b < 0x80 then (decodeFrom (position + 1) none rest).map (Char.ofNat b.toNat :: ·)
    else
      match begin? b position with
      | none => .error ⟨.start, position, 1, b⟩
      | some g => decodeFrom (position + 1) (some g) rest
  | some g, b :: rest =>
    if b < g.low || g.high < b then .error ⟨.continuation, g.position, position - g.position, g.lead⟩
    else
      let bits := 64 * g.bits + (b.toNat - 0x80)
      if g.missing ≤ 1 then (decodeFrom (position + 1) none rest).map (Char.ofNat bits :: ·)
      else
        decodeFrom (position + 1)
          (some { g with bits, missing := g.missing - 1, low := 0x80, high := 0xBF }) rest

def decode (bytes : Bytes) : Except Utf8Error Text := decodeFrom 0 none bytes

def encode (t : Text) : Bytes := t.flatMap String.utf8EncodeChar

end Text

end MarkdownStyle
