/-
The registry of rules: rules in the order in which their names were registered, no two of one
name. A key finds the rule of that name, else the first rule that it stands for.
-/
import MarkdownStyle.Config.Fault
import MarkdownStyle.Rule.BlankLine
import MarkdownStyle.Rule.Fence
import MarkdownStyle.Rule.SentenceCase
import MarkdownStyle.Rule.DashItem
import MarkdownStyle.Rule.DefinitionPlace

namespace MarkdownStyle

/-- Puts a rule in the place of the rule of its name, or at the end. -/
def placeRule (rules : List Rule) (rule : Rule) : List Rule :=
  match rules with
  | [] => [rule]
  | r :: rest => if r.name = rule.name then rule :: rest else r :: placeRule rest rule

theorem mem_names_placeRule {rules : List Rule} {rule : Rule} {name : String} :
    name ∈ (placeRule rules rule).map Rule.name ↔ name ∈ rules.map Rule.name ∨ name = rule.name := by
  induction rules with
  | nil => simp [placeRule]
  | cons r rest ih =>
    by_cases h : r.name = rule.name
    · simp only [placeRule, h, ↓reduceIte, List.map_cons, List.mem_cons]
      grind
    · simp only [placeRule, h, ↓reduceIte, List.map_cons, List.mem_cons, ih, or_assoc]

theorem nodup_names_placeRule {rules : List Rule} (rule : Rule) (h : (rules.map Rule.name).Nodup) :
    ((placeRule rules rule).map Rule.name).Nodup := by
  induction rules with
  | nil => simp [placeRule]
  | cons r rest ih =>
    rw [List.map_cons, List.nodup_cons] at h
    by_cases hr : r.name = rule.name
    · simpa [placeRule, hr] using ⟨by simpa [hr] using h.1, h.2⟩
    · simp only [placeRule, hr, ↓reduceIte, List.map_cons, List.nodup_cons, mem_names_placeRule, not_or]
      exact ⟨⟨h.1, not_false⟩, ih h.2⟩

structure Registry where
  rules : List Rule
  nodup_names : (rules.map Rule.name).Nodup

namespace Registry

def empty : Registry := ⟨[], List.nodup_nil⟩

/-- Registers a rule; it takes the place of a rule of the same name. -/
def add (g : Registry) (rule : Rule) : Registry :=
  ⟨placeRule g.rules rule, nodup_names_placeRule rule g.nodup_names⟩

def ofList (rules : List Rule) : Registry := rules.foldl add empty

/-- The built-in rules. -/
def builtin : Registry :=
  ofList [dashItemRule, fenceRule, definitionPlaceRule, blankLineRule, sentenceCaseRule]

def names (g : Registry) : List String := g.rules.map Rule.name

/-- The rule that a key stands for. -/
def find? (g : Registry) (key : String) : Option Rule :=
  match g.rules.find? (·.name == key) with
  | some rule => some rule
  | none => g.rules.find? (·.matchesKey key)

/-- The rule that a key stands for, or the error that there is none. -/
def get (g : Registry) (key : String) : Except ConfigFault Rule :=
  match g.find? key with
  | some rule => .ok rule
  | none => .error (.unknownRule key)

def contains (g : Registry) (key : String) : Bool := (g.find? key).isSome

end Registry

end MarkdownStyle
