/-
Reference labels and where a line of prose uses them. A label is compared without regard to case
and to the amount of whitespace. Code spans are cut out of a line before it is scanned, so what
stood on the two sides of a span becomes adjacent.
-/
import MarkdownStyle.Line.Fence
import MarkdownStyle.Text.Case
import MarkdownStyle.Text.Scan

namespace MarkdownStyle

/-- The form in which labels are compared. -/
def labelKey (label : Text) : Text := Text.foldCase (Text.join [' '] (Text.words label))

/-! ## Code spans -/

/-- The length of the shortest start of a text that ends in `ticks` backticks and holds no line
feed before them. -/
def lengthToTicks? (ticks : Nat) : Text → Option Nat
  | [] => none
  | c :: rest =>
    if (c :: rest).take ticks == List.replicate ticks backtick then some ticks
    else if c == '\n' then none
    else (lengthToTicks? ticks rest).map (· + 1)

/-- The length of a code span that opens with `ticks` backticks, given what follows them. Between
its two runs of backticks stands at least one character. -/
def spanLength? (ticks : Nat) : Text → Option Nat
  | [] => none
  | c :: rest => if c == '\n' then none else (lengthToTicks? ticks rest).map (ticks + 1 + ·)

/-- A code span at the start of a text, tried with as many backticks as stand there and then with
fewer. -/
def codeSpan? (t : Text) : Option (Text.Found Text) :=
  let (run, _) := Text.span (· == backtick) t
  let tries := (List.range run.length).reverse.map (· + 1)
  (tries.findSome? fun ticks => spanLength? ticks (t.drop ticks)).map (⟨·, []⟩)

def removeCodeSpans (t : Text) : Text := Text.replaceAll codeSpan? t

/-! ## Usages on a line -/

def isBracket (c : Char) : Bool := c == '[' || c == ']'

/-- A bracketed part without brackets inside, at the start of a text: what it holds, and what
follows it. -/
def bracketed? (t : Text) : Option (Text × Text) :=
  match t with
  | '[' :: rest =>
    match Text.span (!isBracket ·) rest with
    | (inner, ']' :: after) => some (inner, after)
    | _ => none
  | _ => none

/-- The label of a reference link: a text in brackets with a label in brackets behind it, which
may be empty, or alone. In front of an inline target or a colon a text is no reference. -/
def linkLabel? (t : Text) : Option (Text.Found Text) :=
  match bracketed? t with
  | none | some ([], _) => none
  | some (inner, after) =>
    match bracketed? after with
    | some (label, _) =>
      some ⟨inner.length + label.length + 4, if label.isEmpty then inner else label⟩
    | none =>
      match after with
      | '[' :: _ | '(' :: _ | ':' :: _ => none
      | _ => some ⟨inner.length + 2, inner⟩

/-- A reference link or image at the start of a text, with its label. -/
def reference? (t : Text) : Option (Text.Found Text) :=
  match t with
  | '!' :: rest => (linkLabel? rest).map fun f => ⟨f.length + 1, f.value⟩
  | _ => linkLabel? t

/-- The normalized labels that a line of prose uses, from left to right. -/
def usedLabels (line : Text) : List Text :=
  (Text.findAll reference? (removeCodeSpans line)).map labelKey

end MarkdownStyle
