/-
Linters over the built-in rules. A configuration is resolved into one setting for each of the five
rules, in the order in which they are registered.
-/
import MarkdownStyle.Linter
import Mathlib.Tactic

namespace MarkdownStyle

theorem builtin_rules : Registry.builtin.rules =
    [dashItemRule, fenceRule, definitionPlaceRule, blankLineRule, sentenceCaseRule] := by
  rfl

theorem Linter.ofConfig_eq_ok {g : Registry} {config : Mapping} {l : Linter}
    (h : Linter.ofConfig g config = .ok l) : l.registry = g ∧ settingsFor g config = .ok l.settings := by
  unfold Linter.ofConfig at h
  split at h
  · rename_i settings hs
    cases h
    exact ⟨rfl, hs⟩
  · cases h

/-- Settings that a configuration resolves to make a linter. -/
theorem Linter.exists_ofConfig {g : Registry} {config : Mapping} {settings : List Setting}
    (h : settingsFor g config = .ok settings) :
    ∃ l, Linter.ofConfig g config = .ok l ∧ l.registry = g ∧ l.settings = settings := by
  unfold Linter.ofConfig
  split
  · rename_i settings' hs
    rw [h] at hs
    cases hs
    exact ⟨_, rfl, rfl, rfl⟩
  · rename_i e hs
    rw [h] at hs
    cases hs

/-- A new linter always has rules, whatever registry it is given. -/
theorem Linter.rules_ne_nil_of_make {config : Mapping} {g : Option Registry} {l : Linter}
    (h : Linter.make config g = .ok l) : l.registry.rules ≠ [] := by
  rw [(Linter.ofConfig_eq_ok h).1]
  unfold Registry.orBuiltin
  split
  · split
    · exact List.cons_ne_nil _ _
    · rename_i hrules
      exact fun hnil => hrules (List.isEmpty_iff.2 hnil)
  · exact List.cons_ne_nil _ _

/-- The linter of the empty configuration. -/
def Linter.house : Linter where
  registry := .builtin
  settings := [⟨true, dashItemRule.defaults⟩, ⟨true, fenceRule.defaults⟩, ⟨true, definitionPlaceRule.defaults⟩,
    ⟨true, blankLineRule.defaults⟩, ⟨true, sentenceCaseRule.defaults⟩]
  length_settings := rfl

theorem Linter.ofConfig_nil : Linter.ofConfig .builtin [] = .ok .house := by
  rfl

/-- A linter over the built-in rules has one setting for each of them. -/
theorem Linter.rules_of_builtin {l : Linter} (h : l.registry = .builtin) :
    ∃ dash fence place blank case, l.rules =
      [(dashItemRule, dash), (fenceRule, fence), (definitionPlaceRule, place), (blankLineRule, blank),
        (sentenceCaseRule, case)] := by
  have hlen := l.length_settings
  have hrules := congrArg Registry.rules h
  rw [builtin_rules] at hrules
  rw [hrules] at hlen
  unfold Linter.rules
  rw [hrules]
  rcases hs : l.settings with _ | ⟨a, _ | ⟨b, _ | ⟨c, _ | ⟨d, _ | ⟨e, _ | ⟨f, rest⟩⟩⟩⟩⟩⟩ <;>
    simp_all

end MarkdownStyle
