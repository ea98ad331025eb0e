/-
Tokens of a YAML text. Indentation becomes tokens of its own: one where a block structure starts
and one where it ends. A simple key is only known as a key when the colon behind it is reached, so
its place among the tokens is kept until then.
-/
import MarkdownStyle.Yaml.Scalar

namespace MarkdownStyle.Yaml

inductive Token where
  /-- A version directive, with the major version. -/
  | version (major : Nat)
  /-- A directive that gives a tag handle a meaning. -/
  | handle (name meaning : Text)
  | otherDirective
  | documentStart
  | documentEnd
  | textEnd
  | blockListStart
  | blockMapStart
  | blockEnd
  | flowListStart
  | flowListEnd
  | flowMapStart
  | flowMapEnd
  | blockEntry
  | flowEntry
  | key
  | value
  | alias (name : Text)
  | anchor (name : Text)
  | tag (handle : Option Text) (suffix : Text)
  | scalar (text : Text) (plain : Bool)
deriving DecidableEq

/-! ## Directives, names and tags -/

/-- A name of letters, digits, dashes and underscores. -/
def name? : Reader Text := fun c =>
  let (name, c) := c.span isWordChar
  if name.isEmpty then none else some (name, c)

def number? : Reader Nat := fun c =>
  let (digits, c) := c.span Char.isDigit
  if digits.isEmpty then none else some (digits.foldl (fun n d => 10 * n + (d.toNat - 48)) 0, c)

/-- An anchor or alias name, which must be followed by white space or punctuation. -/
def anchorName? : Reader Text := fun c => do
  let (name, c) ← name? c
  let marks := [':', '?', ',', ']', '\x7d', '%', '@', '\x60']
  if endsWord c.peek || c.peek.any marks.contains then return (name, c) else none

/-- A tag handle: an exclamation mark, or a name between two of them. -/
def tagHandle? : Reader Text := fun c =>
  match c.rest with
  | '!' :: rest =>
    let name := rest.takeWhile isWordChar
    match rest.drop name.length with
    | '!' :: _ => some ('!' :: name ++ ['!'], c.skip (name.length + 2))
    | _ => if rest.head? == some ' ' then some (['!'], c.next) else none
  | _ => none

def isUriChar (c : Char) : Bool :=
  c.isAlphanum || "-;/?:@&=+$,_.!~*()[]".toList.contains c || c == singleQuote

/-- The text of a tag, with bytes given in hexadecimal where it has them. -/
def uri? : Reader Text := fun c =>
  let (uri, rest) := c.span fun ch => isUriChar ch || ch == '%'
  if uri.isEmpty then none else some (uri, rest)

/-- A directive at its percent sign. -/
def directive? (c : Cursor) : Option (Token × Cursor) := do
  let (name, c) ← name? c.next
  if !endsPart c.peek then none
  else if name == "YAML".toList then
    let (major, c) ← number? c.skipSpaces
    if c.peek != some '.' then none
    else
      let (_, c) ← number? c.next
      if endsPart c.peek then return (.version major, ← c.closeLine?) else none
  else if name == "TAG".toList then
    let (handle, c) ← tagHandle? c.skipSpaces
    if c.peek != some ' ' then none
    else
      let (meaning, c) ← uri? c.skipSpaces
      if endsPart c.peek then return (.handle handle meaning, ← c.closeLine?) else none
  else return (.otherDirective, ← (c.skipWhile (!isBreak ·)).closeLine?)

/-- A tag at its exclamation mark. -/
def tag? (c : Cursor) : Option (Token × Cursor) := do
  let (token, c) ← do
    match c.peekAt 1 with
    | some '<' =>
      let (suffix, c) ← uri? (c.skip 2)
      if c.peek == some '>' then pure (Token.tag none suffix, c.next) else none
    | ch =>
      if endsWord ch then pure (Token.tag none ['!'], c.next)
      else
        let word := c.rest.drop 1 |>.takeWhile fun ch => !endsPart (some ch)
        if word.contains '!' then do
          let (handle, c) ← tagHandle? c
          let (suffix, c) ← uri? c
          pure (Token.tag (some handle) suffix, c)
        else do
          let (suffix, c) ← uri? c.next
          pure (Token.tag (some ['!']) suffix, c)
  if endsPart c.peek then return (token, c) else none

/-! ## Tokens from left to right -/

/-- A token that may turn out to be a key, and its place in the text and among the tokens. -/
structure KeyCandidate where
  token : Nat
  /-- Whether nothing but a key can stand there. -/
  required : Bool
  index : Nat
  line : Nat
  column : Nat

structure Scanner where
  cursor : Cursor
  tokens : Array Token
  /-- How many flow lists and mappings are open. -/
  depth : Nat
  /-- The column of the innermost block structure, or -1 outside of all. -/
  indent : Int
  /-- The columns of the block structures around it. -/
  outer : List Int
  keyAllowed : Bool
  /-- At most one candidate for each depth. -/
  candidates : List (Nat × KeyCandidate)

namespace Scanner

def start (t : Text) : Scanner where
  cursor := if t.head? == some byteOrderMark then (Cursor.start t).next else Cursor.start t
  tokens := #[]
  depth := 0
  indent := -1
  outer := []
  keyAllowed := true
  candidates := []

def push (s : Scanner) (t : Token) : Scanner := { s with tokens := s.tokens.push t }

def allowKey (s : Scanner) (allowed : Bool) : Scanner := { s with keyAllowed := allowed }

/-! ### Keys -/

/-- Drops the candidate of this depth; a required one must not be dropped. -/
def dropCandidate (s : Scanner) : Option Scanner :=
  if s.candidates.any fun (d, k) => d == s.depth && k.required then none
  else some { s with candidates := s.candidates.filter (·.1 != s.depth) }

/-- Drops the candidates that a colon cannot reach any more: a key stands on one line, and the
colon within 1024 characters. -/
def dropStale (s : Scanner) : Option Scanner :=
  let stale (k : KeyCandidate) : Bool := k.line != s.cursor.line || 1024 < s.cursor.index - k.index
  if s.candidates.any fun (_, k) => k.required && stale k then none
  else some { s with candidates := s.candidates.filter fun (_, k) => !stale k }

/-- Notes that the next token may be a key. -/
def saveCandidate (s : Scanner) : Option Scanner :=
  if s.keyAllowed then do
    let s ← s.dropCandidate
    let c := s.cursor
    let required := s.depth == 0 && s.indent == c.column
    return { s with
      candidates := (s.depth, ⟨s.tokens.size, required, c.index, c.line, c.column⟩) :: s.candidates }
  else some s

/-! ### Indentation -/

/-- Closes the block structures to the right of a column. -/
def closeTo (column : Int) : List Int → Scanner → Scanner
  | [], s => s
  | around :: outer, s =>
    if column < s.indent then closeTo column outer ({ s with indent := around, outer }.push .blockEnd)
    else s

def unwind (s : Scanner) (column : Int) : Scanner :=
  if s.depth == 0 then closeTo column s.outer s else s

/-- Opens a block structure at a column, unless one is open there. Its token goes to a place. -/
def openBlock (s : Scanner) (column : Nat) (place : Nat) (token : Token) : Scanner :=
  if s.indent < column then
    { s with
      indent := column
      outer := s.indent :: s.outer
      tokens := s.tokens.insertIdxIfInBounds place token }
  else s

/-! ### Kinds of tokens -/

/-- Takes a mark of `size` characters as a token. -/
def take (s : Scanner) (size : Nat) (token : Token) : Scanner :=
  { s with cursor := s.cursor.skip size }.push token

def textEnd (s : Scanner) : Option Scanner := do
  let s ← (s.unwind (-1)).dropCandidate
  return s.push .textEnd

def documentMark (s : Scanner) (token : Token) : Option Scanner := do
  let s ← (s.unwind (-1)).dropCandidate
  return (s.allowKey false).take 3 token

def directive (s : Scanner) : Option Scanner := do
  let s ← (s.unwind (-1)).dropCandidate
  let (token, c) ← directive? s.cursor
  return { s.allowKey false with cursor := c }.push token

def flowStart (s : Scanner) (token : Token) : Option Scanner := do
  let s ← s.saveCandidate
  return ({ s with depth := s.depth + 1 }.allowKey true).take 1 token

def flowEnd (s : Scanner) (token : Token) : Option Scanner := do
  let s ← s.dropCandidate
  return ({ s with depth := s.depth - 1 }.allowKey false).take 1 token

def flowEntry (s : Scanner) : Option Scanner := do
  let s ← s.dropCandidate
  return (s.allowKey true).take 1 .flowEntry

/-- A mark that opens a block structure where it stands first on its line. -/
def blockMark (s : Scanner) (opening mark : Token) (keyAfter : Bool) : Option Scanner :=
  if s.depth == 0 && !s.keyAllowed then none
  else do
    let s := if s.depth == 0 then s.openBlock s.cursor.column s.tokens.size opening else s
    let s ← (s.allowKey keyAfter).dropCandidate
    return s.take 1 mark

/-- A colon: what stands before it is a key if it could be one. -/
def valueMark (s : Scanner) : Option Scanner :=
  match s.candidates.lookup s.depth with
  | some k =>
    let s := { s with
      candidates := s.candidates.filter (·.1 != s.depth)
      tokens := s.tokens.insertIdxIfInBounds k.token .key }
    let s := if s.depth == 0 then s.openBlock k.column k.token .blockMapStart else s
    some ((s.allowKey false).take 1 .value)
  | none => s.blockMark .blockMapStart .value (s.depth == 0)

/-- An alias, anchor, tag or scalar that a reader finds at the cursor. -/
def content (s : Scanner) (read : Cursor → Option (Token × Cursor)) : Option Scanner := do
  let s ← s.saveCandidate
  let (token, c) ← read s.cursor
  return { s.allowKey false with cursor := c }.push token

def blockContent (s : Scanner) (fold : Bool) : Option Scanner := do
  let s ← (s.allowKey true).dropCandidate
  let (text, c) ← blockScalar fold s.indent s.cursor
  return { s with cursor := c }.push (.scalar text false)

def plainContent (s : Scanner) : Option Scanner := do
  let s ← s.saveCandidate
  let (text, newLine, c) := plainScalar (s.depth != 0) (s.indent + 1) s.cursor
  return { s with cursor := c, keyAllowed := newLine }.push (.scalar text true)

/-! ### The next token -/

/-- Moves over blanks, comments and line ends to the next token. -/
def toToken : Nat → Scanner → Scanner
  | 0, s => s
  | fuel + 1, s =>
    let c := s.cursor.skipSpaces.skipComment
    match c.lineBreak? with
    | some (_, c) => toToken fuel { s with cursor := c, keyAllowed := s.keyAllowed || s.depth == 0 }
    | none => { s with cursor := c }

/-- Whether a plain scalar can start at the cursor. -/
def startsPlain (s : Scanner) (ch : Char) : Bool :=
  let indicators := "-?:,[]#&*!|>%@\"".toList ++ ['\x7b', '\x7d', singleQuote, '\x60']
  !(endsWord (some ch) || indicators.contains ch) ||
    (!endsWord (s.cursor.peekAt 1) && (ch == '-' || (s.depth == 0 && (ch == '?' || ch == ':'))))

/-- Reads the token that starts with a character. -/
def token (s : Scanner) (ch : Char) : Option Scanner :=
  let c := s.cursor
  let apart := endsWord (c.peekAt 1)
  if ch == '%' && c.column == 0 then s.directive
  else if c.column == 0 && c.atMark '-' then s.documentMark .documentStart
  else if c.column == 0 && c.atMark '.' then s.documentMark .documentEnd
  else if ch == '[' then s.flowStart .flowListStart
  else if ch == '\x7b' then s.flowStart .flowMapStart
  else if ch == ']' then s.flowEnd .flowListEnd
  else if ch == '\x7d' then s.flowEnd .flowMapEnd
  else if ch == ',' then s.flowEntry
  else if ch == '-' && apart then s.blockMark .blockListStart .blockEntry true
  else if ch == '?' && (s.depth != 0 || apart) then s.blockMark .blockMapStart .key (s.depth == 0)
  else if ch == ':' && (s.depth != 0 || apart) then s.valueMark
  else if ch == '*' then s.content fun c => (anchorName? c.next).map fun (n, c) => (.alias n, c)
  else if ch == '&' then s.content fun c => (anchorName? c.next).map fun (n, c) => (.anchor n, c)
  else if ch == '!' then s.content tag?
  else if ch == '|' && s.depth == 0 then s.blockContent false
  else if ch == '>' && s.depth == 0 then s.blockContent true
  else if ch == singleQuote || ch == '"' then
    s.content fun c => (quotedScalar ch c).map fun (t, c) => (.scalar t false, c)
  else if s.startsPlain ch then s.plainContent
  else none

/-- Reads all tokens that are left. -/
def run : Nat → Scanner → Option (List Token)
  | 0, _ => none
  | fuel + 1, s => do
    let s ← (toToken (s.cursor.rest.length + 1) s).dropStale
    let s := s.unwind s.cursor.column
    match s.cursor.peek with
    | none => return (← s.textEnd).tokens.toList
    | some ch => run fuel (← s.token ch)

end Scanner

/-- The tokens of a YAML text, unless it is ill formed. -/
def tokens? (t : Text) : Option (List Token) :=
  if t.all isAllowed then Scanner.run (t.length + 1) (.start t) else none

end MarkdownStyle.Yaml
