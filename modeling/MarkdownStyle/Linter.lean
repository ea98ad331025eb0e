/-
The linter: a registry of rules with one setting for each of them. Linting runs the enabled rules
on a document and sorts their issues; a rule that fails becomes an issue itself. Fixing applies the
edits of all issues at once and lints the result.
-/
import MarkdownStyle.Config.Basic
import MarkdownStyle.Edit
import MarkdownStyle.Text.Lines

namespace MarkdownStyle

structure Linter where
  registry : Registry
  /-- The settings, in the order of the rules. -/
  settings : List Setting
  length_settings : settings.length = registry.rules.length

namespace Linter

/-! ## Settings -/

/-- The rules with their settings. -/
def rules (l : Linter) : List (Rule × Setting) := l.registry.rules.zip l.settings

/-- Enables or disables the rule of a name. -/
def setEnabled (l : Linter) (name : String) (enabled : Bool) : Linter where
  registry := l.registry
  settings := List.zipWith (fun rule setting =>
    if rule.name == name then { setting with enabled } else setting) l.registry.rules l.settings
  length_settings := by simp [l.length_settings]

/-- Enables or disables the rule that a key stands for. -/
def switch (l : Linter) (key : String) (enabled : Bool) : Except ConfigFault Linter :=
  (l.registry.get key).map fun rule => l.setEnabled rule.name enabled

def enable (l : Linter) (key : String) : Except ConfigFault Linter := l.switch key true

def disable (l : Linter) (key : String) : Except ConfigFault Linter := l.switch key false

/-- The names of the enabled rules, in order. -/
def enabledNames (l : Linter) : List String :=
  l.rules.filterMap fun (rule, setting) => if setting.enabled then some rule.name else none

/-! ## Linting -/

/-- The issue that stands for a failed check. -/
def failureIssue (rule : Rule) (failure : CheckFailure) : Issue :=
  ⟨⟨1, "Rule check failed: " ++ failure.message, [], none⟩, rule.id, rule.name, .error⟩

/-- What one rule contributes. -/
def issuesOf (d : Document) (rule : Rule) (setting : Setting) : List Issue :=
  if setting.enabled then
    match rule.issues d setting.options with
    | .ok issues => issues
    | .error failure => [failureIssue rule failure]
  else []

/-- The issues of a document, by line and rule. -/
def issues (l : Linter) (d : Document) : List Issue :=
  Issue.sort (l.rules.flatMap fun (rule, setting) => issuesOf d rule setting)

/-- The report on a document. -/
def lintDocument (l : Linter) (d : Document) (path : String) : Report := ⟨path, l.issues d, 0⟩

/-- The report on a text. -/
def lint (l : Linter) (text : Text) (path : String) : Report :=
  l.lintDocument (.ofLines (Text.lines text)) path

/-! ## Fixing -/

/-- The text with all edits applied, and the report on it. A text without edits stays as it is. -/
def fix (l : Linter) (text : Text) (path : String) : Text × Report :=
  let lines := Text.lines text
  let before := l.lintDocument (.ofLines lines) path
  match before.issues.filterMap (·.edit) with
  | [] => (text, before)
  | edits =>
    let fixed := applyEdits lines edits
    let after := l.lintDocument (.ofLines fixed) path
    (Text.writeLines fixed text, { after with removed := before.issues.length - after.issues.length })

end Linter

theorem length_mapM_except {ε α β : Type} {f : α → Except ε β} :
    ∀ {xs : List α} {ys : List β}, xs.mapM f = .ok ys → ys.length = xs.length
  | [], ys, h => by
    rw [List.mapM_nil] at h
    cases h
    rfl
  | x :: xs, ys, h => by
    rw [List.mapM_cons] at h
    cases hx : f x with
    | error e => rw [hx] at h; cases h
    | ok y =>
      cases hs : xs.mapM f with
      | error e => rw [hx, hs] at h; cases h
      | ok zs =>
        rw [hx, hs] at h
        cases h
        simp [length_mapM_except hs]

theorem length_settingsFor {g : Registry} {config : Mapping} {settings : List Setting}
    (h : settingsFor g config = .ok settings) : settings.length = g.rules.length := by
  unfold settingsFor at h
  cases hm : layered g houseStyle config with
  | error e => rw [hm] at h; cases h
  | ok layer => rw [hm] at h; exact length_mapM_except h

/-- A linter for a registry under a configuration. -/
def Linter.ofConfig (g : Registry) (config : Mapping) : Except ConfigFault Linter :=
  match h : settingsFor g config with
  | .ok settings => .ok ⟨g, settings, length_settingsFor h⟩
  | .error e => .error e

/-- The registry that is used for a given one. None at all and one without rules mean the built-in
rules. -/
def Registry.orBuiltin (g : Option Registry) : Registry :=
  match g with
  | some g => if g.rules.isEmpty then builtin else g
  | none => builtin

/-- A new linter. -/
def Linter.make (config : Mapping) (g : Option Registry) : Except ConfigFault Linter :=
  ofConfig (Registry.orBuiltin g) config

end MarkdownStyle
