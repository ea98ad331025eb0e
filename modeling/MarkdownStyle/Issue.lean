/-
Issues: what a rule finds wrong with a line of a document, and how the line could be mended. A
rule reports findings; an issue is a finding with the name and the severity of its rule. A report
collects the issues of one document.
-/
import MarkdownStyle.Text.Basic

namespace MarkdownStyle

inductive Severity where
  /-- A violation of the style. -/
  | error
  /-- A guess that may be wrong. -/
  | warning
deriving DecidableEq

def Severity.name : Severity → String
  | error => "error"
  | warning => "warning"

/-- An edit of one line: another text for it, or lines to put in front of it. -/
structure LineEdit where
  line : Int
  replacement : Option Text
  inserted : List Text
deriving DecidableEq

def LineEdit.replace (line : Int) (text : Text) : LineEdit := ⟨line, some text, []⟩

def LineEdit.insert (line : Int) (texts : List Text) : LineEdit := ⟨line, none, texts⟩

/-- What a rule reports about a line, with an excerpt of it and an edit that mends it. -/
structure Finding where
  line : Int
  detail : String
  excerpt : Text
  edit : Option LineEdit
deriving DecidableEq

structure Issue extends Finding where
  ruleId : String
  ruleName : String
  severity : Severity
deriving DecidableEq

namespace Issue

def isFixable (i : Issue) : Bool := i.edit.isSome

/-- The issue in one line. -/
def text (i : Issue) : String :=
  toString i.line ++ ": " ++ i.ruleId ++ "/" ++ i.ruleName ++ " " ++ i.detail

/-- Whether an issue comes before another one or at the same place: by line, then by rule. -/
def notAfter (a b : Issue) : Bool :=
  a.line < b.line || (a.line == b.line && decide (a.ruleId ≤ b.ruleId))

/-- Issues by line and rule; issues at the same place stay in their order. -/
def sort (issues : List Issue) : List Issue := issues.mergeSort notAfter

end Issue

/-- The outcome of linting one document. -/
structure Report where
  path : String
  issues : List Issue
  /-- How many issues fixing has removed. -/
  removed : Nat
deriving DecidableEq

namespace Report

/-- The number of issues of a severity. -/
def count (r : Report) (s : Severity) : Nat := r.issues.countP (·.severity == s)

/-- The number of issues that come with an edit. -/
def fixable (r : Report) : Nat := r.issues.countP (·.isFixable)

def isClean (r : Report) : Bool := r.issues.isEmpty

end Report

end MarkdownStyle
