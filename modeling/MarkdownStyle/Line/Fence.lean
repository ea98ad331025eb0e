/-
Fenced code blocks. A fence run is a line of at least three backticks or tildes, indented at will
and followed by an info string; the scan of a document opens a block at a fence run and closes it
at the next one of the same character that is as long and as deep as the opener.
-/
import MarkdownStyle.Text.Basic

namespace MarkdownStyle

def backtick : Char := '\x60'

def tilde : Char := '~'

/-! ## Fence runs -/

/-- A line read as a fence run. -/
structure FenceLine where
  indent : Text
  marker : Char
  length : Nat
  info : Text
deriving DecidableEq

/-- Reads a line as a fence run; `none` where it is not one. -/
def FenceLine.ofLine? (line : Text) : Option FenceLine :=
  let (indent, rest) := Text.span Text.isBlank line
  match rest with
  | [] => none
  | marker :: _ =>
    if marker == backtick || marker == tilde then
      let (run, info) := Text.span (· == marker) rest
      if 3 ≤ run.length then some ⟨indent, marker, run.length, info⟩ else none
    else none

/-! ## The scan -/

/-- Where the scan stands: outside every block, or in one that this fence run opened. Outside a
block the last three fields say nothing. -/
structure FenceState where
  isOpen : Bool
  marker : Option Char
  length : Nat
  indent : Nat
deriving DecidableEq

namespace FenceState

def outside : FenceState := ⟨false, none, 0, 0⟩

def opened (run : FenceLine) : FenceState := ⟨true, some run.marker, run.length, run.indent.length⟩

/-- Whether `length` markers at a depth of `indent` close the open block. -/
def closedBy (s : FenceState) (marker : Char) (length indent : Nat) : Bool :=
  s.isOpen && s.marker == some marker && s.length ≤ length && s.indent ≤ indent

/-- Whether a run of fence markers closes the open block; its first character stands for all.
An empty run has no answer while a block is open. -/
def closedBy? (s : FenceState) (run : Text) (indent : Nat) : Option Bool :=
  match run with
  | [] => if s.isOpen then none else some false
  | marker :: _ => some (s.closedBy marker run.length indent)

/-- The state after a line, and whether the line opened or closed a block. -/
def step (s : FenceState) (line : Text) : FenceState × Bool :=
  match FenceLine.ofLine? line with
  | none => (s, false)
  | some run =>
    if !s.isOpen then (opened run, true)
    else if s.closedBy run.marker run.length run.indent.length then (outside, true)
    else (s, false)

end FenceState

end MarkdownStyle
