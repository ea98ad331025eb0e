/-
Rules: a description, options with their defaults and lower bounds, and a check that looks at a
document under given options. A check may fail instead of finding something.
-/
import MarkdownStyle.Issue
import MarkdownStyle.Line.Classify
import MarkdownStyle.Text.Case
import MarkdownStyle.Value.Literal

namespace MarkdownStyle

/-! ## Documents -/

/-- The lines of a document together with their classification. -/
structure Document where
  lines : List Text
  classified : List Line
  classified_eq : classified = classify lines

def Document.ofLines (lines : List Text) : Document := ⟨lines, classify lines, rfl⟩

/-! ## Checks -/

/-- Why a check could not be carried out. -/
inductive CheckFailure where
  /-- The rule gave up with a message. -/
  | raised (message : String)
  /-- The rule reported a line that the document does not have. -/
  | noSuchLine
  /-- A text would have to hold more copies than a 64 bit count can say. -/
  | countTooLarge
  /-- The step between indents is zero. -/
  | zeroIndent
deriving DecidableEq

def CheckFailure.message : CheckFailure → String
  | raised message => message
  | noSuchLine => "list index out of range"
  | countTooLarge => "cannot fit 'int' into an index-sized integer"
  | zeroIndent => "integer modulo by zero"

/-- Two to the power of 63, where signed integers of 64 bits end. -/
def countLimit : Int := 0x8000000000000000

/-- A count of copies, none for a negative one, as far as a signed 64 bit integer can hold it. -/
def copyCount (n : Int) : Except CheckFailure Nat :=
  if -countLimit ≤ n && n < countLimit then .ok n.toNat else .error .countTooLarge

/-- Copies of a character. -/
def copiesOf (c : Char) (n : Int) : Except CheckFailure Text :=
  (copyCount n).map fun count => List.replicate count c

/-- A finding about a line, with the line itself as excerpt. -/
def Line.finding (line : Line) (detail : String) (edit : Option LineEdit) : Finding :=
  ⟨line.number, detail, Text.trim line.text, edit⟩

/-! ## Options -/

/-- The options that a check runs under. -/
abbrev Options := Mapping

namespace Options

def value? (o : Options) (key : String) : Option Value := Mapping.get? o (.str key)

/-- An integer option, or the default if it is missing. -/
def int (o : Options) (key : String) (default : Int) : Int :=
  ((o.value? key).bind Value.integer?).getD default

/-- A truth value, or the default if it is missing. -/
def flag (o : Options) (key : String) (default : Bool) : Bool :=
  match o.value? key with
  | some (.bool b) => b
  | _ => default

/-- A list of strings, or the default if it is missing. -/
def strings (o : Options) (key : String) (default : List String) : List String :=
  match o.value? key with
  | some (.list items) => items.filterMap fun
    | .str s => some s
    | _ => none
  | _ => default

end Options

/-! ## Rules -/

structure Rule where
  id : String
  name : String
  description : String
  tags : List String
  severity : Severity
  fixable : Bool
  defaults : Options
  minimums : List (String × Int)
  check : Document → Options → Except CheckFailure (List Finding)

namespace Rule

/-- A finding as an issue of the rule. -/
def issue (r : Rule) (f : Finding) : Issue := ⟨f, r.id, r.name, r.severity⟩

/-- The issues that the rule finds in a document. -/
def issues (r : Rule) (d : Document) (o : Options) : Except CheckFailure (List Issue) :=
  (r.check d o).map (·.map r.issue)

/-- Whether a key stands for the rule: its name, or its id in any case. -/
def matchesKey (r : Rule) (key : String) : Bool :=
  key == r.name || Text.upper key.toList == r.id.toList

end Rule

end MarkdownStyle
