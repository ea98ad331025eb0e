/-
JSON text, with two columns more for each level of nesting and with everything beyond ASCII
escaped, and reports as JSON.
-/
import MarkdownStyle.Issue
import MarkdownStyle.Value.Literal

namespace MarkdownStyle

inductive JsonTree where
  | null
  | bool (b : Bool)
  | int (n : Int)
  | str (t : Text)
  | list (items : List JsonTree)
  | object (fields : List (String × JsonTree))

namespace JsonTree

/-! ## Text -/

/-- A code unit of 16 bits as an escape. -/
def unit (n : Nat) : Text := '\\' :: 'u' :: hexText 4 n

/-- A character inside a JSON string. Characters of the upper planes take two units. -/
def char (c : Char) : Text :=
  if c == '"' || c == '\\' then ['\\', c]
  else if c == '\n' then ['\\', 'n']
  else if c == '\r' then ['\\', 'r']
  else if c == '\t' then ['\\', 't']
  else if c == '\x08' then ['\\', 'b']
  else if c == '\x0C' then ['\\', 'f']
  else if ' ' ≤ c && c.toNat < 0x7F then [c]
  else if c.toNat ≤ 0xFFFF then unit c.toNat
  else unit (0xD800 + (c.toNat - 0x10000) / 0x400) ++ unit (0xDC00 + (c.toNat - 0x10000) % 0x400)

def quote (t : Text) : String := String.ofList (['"'] ++ t.flatMap char ++ ['"'])

def newLine (indent : Nat) : String := "\n" ++ String.ofList (List.replicate indent ' ')

/-- Items in brackets, each on a line of its own. -/
def bracket (opening closing : String) (indent : Nat) (items : List String) : String :=
  if items.isEmpty then opening ++ closing
  else
    opening ++ newLine (indent + 2) ++ String.intercalate ("," ++ newLine (indent + 2)) items ++
      newLine indent ++ closing

mutual

/-- The text of a tree whose first line starts at an indent. -/
def text (indent : Nat) : JsonTree → String
  | null => "null"
  | bool b => if b then "true" else "false"
  | int n => toString n
  | str t => quote t
  | list items => bracket "[" "]" indent (itemTexts (indent + 2) items)
  | object fields => bracket "\x7b" "\x7d" indent (fieldTexts (indent + 2) fields)

def itemTexts (indent : Nat) : List JsonTree → List String
  | [] => []
  | t :: rest => t.text indent :: itemTexts indent rest

def fieldTexts (indent : Nat) : List (String × JsonTree) → List String
  | [] => []
  | (name, t) :: rest => (quote name.toList ++ ": " ++ t.text indent) :: fieldTexts indent rest

end

/-! ## Reports -/

def ofEdit (e : LineEdit) : JsonTree :=
  object [("line_number", int e.line), ("replacement", (e.replacement.map str).getD null),
    ("insert_before", list (e.inserted.map str))]

def ofIssue (i : Issue) : JsonTree :=
  object [("rule_id", str i.ruleId.toList), ("rule_name", str i.ruleName.toList),
    ("line_number", int i.line), ("detail", str i.detail.toList), ("context", str i.excerpt),
    ("severity", str i.severity.name.toList), ("fix", (i.edit.map ofEdit).getD null)]

def ofReport (r : Report) : JsonTree :=
  object [("path", str r.path.toList), ("passed", bool r.isClean),
    ("error_count", int (r.count .error)), ("warning_count", int (r.count .warning)),
    ("fixed_count", int r.removed), ("issues", list (r.issues.map ofIssue))]

end JsonTree

/-- Reports as JSON text. -/
def reportsText (rs : List Report) : String := (JsonTree.list (rs.map JsonTree.ofReport)).text 0

end MarkdownStyle
