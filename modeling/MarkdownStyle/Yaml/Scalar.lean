/-
Scalars as they are written in a YAML text: plain, in single or double quotes, or as a block of
lines. Every reader starts behind the place where the kind of scalar was recognized and answers
with the text of the scalar and the cursor behind it. Loops over lines are bounded by the number of
characters left.
-/
import MarkdownStyle.Yaml.Cursor

namespace MarkdownStyle.Yaml

/-- A reader that may find something ill formed. -/
abbrev Reader (α : Type) := Cursor → Option (α × Cursor)

/-! ## Line folding -/

/-- The line ends that a break and the blank lines below it leave: one break alone is a space. -/
def folded (first : Char) (more : Text) : Text :=
  if first != '\n' then first :: more else if more.isEmpty then [' '] else more

/-! ## Quoted scalars -/

def singleQuote : Char := '\x27'

/-- The character for the letter of a short escape. -/
def shortEscapes : List (Char × Char) :=
  [('0', '\x00'), ('a', '\x07'), ('b', '\x08'), ('t', '\t'), ('\t', '\t'), ('n', '\n'), ('v', '\x0B'),
    ('f', '\x0C'), ('r', '\r'), ('e', '\x1B'), (' ', ' '), ('"', '"'), ('\\', '\\'), ('/', '/'),
    ('N', '\x85'), ('_', '\xA0'), ('L', '\u2028'), ('P', '\u2029')]

/-- The number of hexadecimal digits behind the letter of a long escape. -/
def longEscapes : List (Char × Nat) := [('x', 2), ('u', 4), ('U', 8)]

def hexDigit? (c : Char) : Option Nat :=
  if c.isDigit then some (c.toNat - 48)
  else if 'a' ≤ c && c ≤ 'f' then some (c.toNat - 87)
  else if 'A' ≤ c && c ≤ 'F' then some (c.toNat - 55)
  else none

/-- The character of a long escape. -/
def longEscape? (digits : Text) : Option Char := do
  let n := (← digits.mapM hexDigit?).foldl (fun n d => 16 * n + d) 0
  if Nat.isValidChar n then some (Char.ofNat n) else none

/-- Blank lines inside quotes, and the indent of the line below them. -/
def quotedBreaks : Nat → Reader Text
  | 0, _ => none
  | fuel + 1, c =>
    if c.atDocumentMark then none
    else
      let c := c.skipWhile isSpaceOrTab
      match c.lineBreak? with
      | some (b, c) => (quotedBreaks fuel c).map fun (more, c) => (b :: more, c)
      | none => some ([], c)

/-- An escape behind a backslash. An escaped line end stands for nothing. -/
def escape? (c : Cursor) : Option (Text × Cursor) :=
  match c.rest with
  | [] => none
  | ch :: rest =>
    match shortEscapes.lookup ch, longEscapes.lookup ch with
    | some e, _ => some ([e], c.next)
    | none, some size =>
      if rest.length < size then none
      else (longEscape? (rest.take size)).map fun e => ([e], c.skip (size + 1))
    | none, none =>
      match c.lineBreak? with
      | some (_, c) => quotedBreaks (c.rest.length + 1) c
      | none => none

/-- Whether a character inside quotes stands for itself wherever it stands. -/
def isOrdinary (c : Char) : Bool :=
  !(c == singleQuote || c == '"' || c == '\\' || isSpaceOrTab c || isBreak c)

/-- The inside of a quoted scalar up to the closing quote. -/
def quotedText (quote : Char) : Nat → Reader Text
  | 0, _ => none
  | fuel + 1, c =>
    let more (t : Text) (c : Cursor) : Option (Text × Cursor) :=
      (quotedText quote fuel c).map fun (rest, c) => (t ++ rest, c)
    match c.rest with
    | [] => none
    | ch :: rest =>
      if isOrdinary ch then
        let (run, c) := c.span isOrdinary
        more run c
      else if ch == quote then
        if quote == singleQuote && rest.head? == some singleQuote then more [singleQuote] (c.skip 2)
        else some ([], c.next)
      else if isSpaceOrTab ch then
        let (gap, c) := c.span isSpaceOrTab
        match c.lineBreak? with
        | some _ => more [] c
        | none => more gap c
      else
        match c.lineBreak? with
        | some (b, c) =>
          match quotedBreaks (c.rest.length + 1) c with
          | some (breaks, c) => more (folded b breaks) c
          | none => none
        | none =>
          if ch == '\\' && quote == '"' then
            match escape? c.next with
            | some (t, c) => more t c
            | none => none
          else more [ch] c.next

/-- A scalar in quotes, at the opening one. -/
def quotedScalar (quote : Char) : Reader Text := fun c =>
  quotedText quote (c.rest.length + 1) c.next

/-! ## Plain scalars -/

def isFlowMark (c : Char) : Bool := [',', '[', ']', '\x7b', '\x7d'].contains c

/-- Whether a plain scalar ends in front of a text. -/
def endsPlain (inFlow : Bool) (t : Text) : Bool :=
  match t with
  | [] => true
  | ch :: rest =>
    let next := rest.head?
    endsWord (some ch) || (ch == ':' && (endsWord next || (inFlow && next.any isFlowMark))) ||
      (inFlow && (isFlowMark ch || ch == '?'))

/-- The length of a part of a plain scalar without whitespace. -/
def plainLength (inFlow : Bool) : Text → Nat
  | [] => 0
  | ch :: rest => if endsPlain inFlow (ch :: rest) then 0 else plainLength inFlow rest + 1

/-- Blank lines below a part of a plain scalar; `none` where the document ends with them. -/
def plainBreaks : Nat → Cursor → Option Text × Cursor
  | 0, c => (none, c)
  | fuel + 1, c =>
    let c := c.skipSpaces
    match c.lineBreak? with
    | some (b, c) =>
      if c.atDocumentMark then (none, c)
      else
        let (more, c) := plainBreaks fuel c
        (more.map (b :: ·), c)
    | none => (some [], c)

/-- What the whitespace behind a part of a plain scalar stands for, if the scalar may go on, and
whether it holds a line end. -/
def plainGap (c : Cursor) : Text × Bool × Cursor :=
  let (gap, c) := c.span (· == ' ')
  match c.lineBreak? with
  | none => (gap, false, c)
  | some (b, c) =>
    if c.atDocumentMark then ([], true, c)
    else
      let (breaks, c) := plainBreaks (c.rest.length + 1) c
      ((breaks.map (folded b)).getD [], true, c)

/-- The parts of a plain scalar from here on, `gap` standing in front of them. Also tells whether
the cursor has come to a new line behind the scalar. -/
def plainText (inFlow : Bool) (indent : Int) : Nat → Text → Bool → Cursor → Text × Bool × Cursor
  | 0, _, newLine, c => ([], newLine, c)
  | fuel + 1, gap, newLine, c =>
    let length := plainLength inFlow c.rest
    if c.peek == some '#' || length == 0 then ([], newLine, c)
    else
      let part := c.rest.take length
      let (next, newLine, c) := plainGap (c.skip length)
      if next.isEmpty || c.peek == some '#' || (!inFlow && (c.column : Int) < indent) then
        (gap ++ part, newLine, c)
      else
        let (more, newLine, c) := plainText inFlow indent fuel next newLine c
        (gap ++ part ++ more, newLine, c)

/-- A plain scalar whose further lines are indented at least by `indent`. -/
def plainScalar (inFlow : Bool) (indent : Int) (c : Cursor) : Text × Bool × Cursor :=
  plainText inFlow indent (c.rest.length + 1) [] false c

/-! ## Block scalars -/

/-- Which line ends at the end of a block scalar count. -/
inductive Chomping where
  | strip
  | clip
  | keep
deriving DecidableEq

def chomping? (c : Cursor) : Option (Chomping × Cursor) :=
  match c.peek with
  | some '+' => some (.keep, c.next)
  | some '-' => some (.strip, c.next)
  | _ => none

/-- A number of columns, which must not be zero. -/
def increment? (c : Cursor) : Option (Option (Nat × Cursor)) :=
  match c.peek with
  | some d =>
    if d.isDigit then if d == '0' then none else some (some (d.toNat - 48, c.next)) else some none
  | none => some none

/-- The marks behind the sign of a block scalar, in either order. -/
def blockHeader (c : Cursor) : Option (Chomping × Option Nat × Cursor) := do
  let (chomping, increment, c) ← match chomping? c with
    | some (chomping, c) =>
      match ← increment? c with
      | some (n, c) => pure (chomping, some n, c)
      | none => pure (chomping, none, c)
    | none =>
      match ← increment? c with
      | some (n, c) =>
        match chomping? c with
        | some (chomping, c) => pure (chomping, some n, c)
        | none => pure (Chomping.clip, some n, c)
      | none => pure (Chomping.clip, none, c)
  if endsPart c.peek then return (chomping, increment, ← c.closeLine?) else none

/-- Blank lines in front of the first line of a block, and the widest indent among them. -/
def blockIndent : Nat → Nat → Cursor → Text × Nat × Cursor
  | 0, widest, c => ([], widest, c)
  | fuel + 1, widest, c =>
    let c := c.skipSpaces
    let widest := max widest c.column
    match c.lineBreak? with
    | some (b, c) =>
      let (more, widest, c) := blockIndent fuel widest c
      (b :: more, widest, c)
    | none => ([], widest, c)

/-- Blank lines inside a block, and the indent of the line below them. -/
def blockBreaks (indent : Nat) : Nat → Cursor → Text × Cursor
  | 0, c => ([], c)
  | fuel + 1, c =>
    let c := c.skipSpacesTo indent
    match c.lineBreak? with
    | some (b, c) =>
      let (more, c) := blockBreaks indent fuel c
      (b :: more, c)
    | none => ([], c)

/-- The lines of a block from here on, `breaks` standing in front of them. -/
def blockText (fold : Bool) (chomping : Chomping) (indent : Nat) :
    Nat → Text → Text → Cursor → Text × Cursor
  | 0, lineEnd, breaks, c => (lineEnd ++ breaks, c)
  | fuel + 1, lineEnd, breaks, c =>
    if c.column == indent && !c.rest.isEmpty then
      let spaced := c.peek.any isSpaceOrTab
      let (line, c) := c.span (!isBreak ·)
      let (lineEnd, c) := match c.lineBreak? with
        | some (b, c) => ([b], c)
        | none => ([], c)
      let (below, c) := blockBreaks indent (c.rest.length + 1) c
      if c.column == indent && !c.rest.isEmpty then
        let joint :=
          if fold && lineEnd == ['\n'] && !spaced && !c.peek.any isSpaceOrTab then
            if below.isEmpty then [' '] else []
          else lineEnd
        let (more, c) := blockText fold chomping indent fuel [] below c
        (breaks ++ line ++ joint ++ more, c)
      else (breaks ++ line ++ blockEnd lineEnd below, c)
    else (blockEnd lineEnd breaks, c)
where
  blockEnd (lineEnd breaks : Text) : Text :=
    (if chomping == .strip then [] else lineEnd) ++ if chomping == .keep then breaks else []

/-- A block scalar at its sign, inside a structure of the given indent. -/
def blockScalar (fold : Bool) (outer : Int) : Reader Text := fun c => do
  let (chomping, increment, c) ← blockHeader c.next
  let least := (max 1 (outer + 1)).toNat
  let fuel := c.rest.length + 1
  match increment with
  | some n =>
    let indent := least + n - 1
    let (breaks, c) := blockBreaks indent fuel c
    return blockText fold chomping indent fuel [] breaks c
  | none =>
    let (breaks, widest, c) := blockIndent fuel 0 c
    return blockText fold chomping (max least widest) fuel [] breaks c

end MarkdownStyle.Yaml
