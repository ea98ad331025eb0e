/-
Switching rules by keys. The keys that a check is given act like requests to the linter, those that switch
off last: a rule ends up on if it was on or is switched on, and is not switched off.
-/
import MarkdownStyle.Command.Linter
import MarkdownStyle.Proofs.Linter.Session

namespace MarkdownStyle

/-- The requests that switch the rules of some keys on or off. -/
def switches (keys : List String) (enabled : Bool) : List Request := keys.map (.switch · enabled)

section LeavesOn

variable {g : Registry} {rule : Rule} {on off : List String} {before : Bool}

theorem Registry.leavesOn_switches_false :
    g.LeavesOn rule (switches off false) before ↔ before = true ∧ ∀ key ∈ off, ¬ g.Resolves key rule := by
  induction off generalizing before with
  | nil => simp [switches, leavesOn_nil]
  | cons key rest ih =>
    show g.LeavesOn rule (.switch key false :: switches rest false) before ↔ _
    by_cases h : g.Resolves key rule
    · rw [leavesOn_cons_of_resolves h, ih]
      simp [h]
    · rw [leavesOn_cons_of_not_resolves (fun _ _ he => by cases he; exact h), ih]
      simp [h]

/-- A rule is on if it was on or is switched on, and is not switched off. -/
theorem Registry.leavesOn_switches :
    g.LeavesOn rule (switches on true ++ switches off false) before ↔
      (before = true ∨ ∃ key ∈ on, g.Resolves key rule) ∧ ∀ key ∈ off, ¬ g.Resolves key rule := by
  induction on generalizing before with
  | nil =>
    show g.LeavesOn rule (switches off false) before ↔ _
    rw [leavesOn_switches_false]
    simp
  | cons key rest ih =>
    show g.LeavesOn rule (.switch key true :: (switches rest true ++ switches off false)) before ↔ _
    by_cases h : g.Resolves key rule
    · rw [leavesOn_cons_of_resolves h, ih]
      simp [h]
    · rw [leavesOn_cons_of_not_resolves (fun _ _ he => by cases he; exact h), ih]
      simp [h]

end LeavesOn

namespace Linter

variable {l : Linter} {keys : List String}

/-- Switching stops at the first key that stands for no rule. -/
theorem foldlM_switch (enabled : Bool) (l : Linter) (keys : List String) :
    keys.foldlM (fun l key => l.switch key enabled) l = .ok (l.after (switches keys enabled)) ∧
        (∀ key ∈ keys, ∃ rule, l.registry.Resolves key rule) ∨
      ∃ key ∈ keys, (∀ rule, ¬ l.registry.Resolves key rule) ∧
        keys.foldlM (fun l key => l.switch key enabled) l = .error (.unknownRule key) := by
  induction keys generalizing l with
  | nil => exact .inl ⟨rfl, by simp⟩
  | cons key rest ih =>
    rw [List.foldlM_cons]
    cases hfind : l.registry.find? key with
    | none =>
      have hget : l.switch key enabled = .error (.unknownRule key) := by
        unfold switch Registry.get
        rw [hfind]
        rfl
      rw [hget]
      exact .inr ⟨key, List.mem_cons_self .., Registry.find?_eq_none_iff.1 hfind, rfl⟩
    | some rule =>
      have hkey := Registry.find?_eq_some_iff.1 hfind
      have hserve : (l.serve (.switch key enabled)).1 = l.setEnabled rule.name enabled := by
        rw [l.serve_of_find?_eq_some hfind]
      have hafter : l.after (switches (key :: rest) enabled) =
          (l.setEnabled rule.name enabled).after (switches rest enabled) := by
        rw [← hserve]
        rfl
      rw [switch_of_find? hfind, hafter]
      rcases ih (l.setEnabled rule.name enabled) with ⟨hok, hall⟩ | ⟨bad, hbad, hnone, herror⟩
      · exact .inl ⟨hok, List.forall_mem_cons.2 ⟨⟨rule, hkey⟩, hall⟩⟩
      · exact .inr ⟨bad, List.mem_cons_of_mem _ hbad, hnone, herror⟩

end Linter

namespace Command

variable {l : Linter} {enable disable : List String}

theorem switched_eq (l : Linter) (enable disable : List String) :
    switched l enable disable = enable.foldlM (fun (l : Linter) key => l.switch key true) l >>= fun l =>
      disable.foldlM (fun (l : Linter) key => l.switch key false) l := rfl

theorem switched_of_resolves
    (h : ∀ key ∈ enable ++ disable, ∃ rule, l.registry.Resolves key rule) :
    switched l enable disable = .ok (l.after (switches enable true ++ switches disable false)) := by
  obtain ⟨hon, hoff⟩ := List.forall_mem_append.1 h
  have hafter : l.after (switches enable true ++ switches disable false) =
      (l.after (switches enable true)).after (switches disable false) := List.foldl_append
  rw [switched_eq]
  rcases Linter.foldlM_switch true l enable with ⟨hok, -⟩ | ⟨key, hkey, hnone, -⟩
  · rcases Linter.foldlM_switch false (l.after (switches enable true)) disable with ⟨hok', -⟩ | ⟨key, hkey, hnone, -⟩
    · rw [hok, hafter]
      exact hok'
    · obtain ⟨rule, hrule⟩ := hoff key hkey
      rw [l.registry_after] at hnone
      exact absurd hrule (hnone rule)
  · obtain ⟨rule, hrule⟩ := hon key hkey
    exact absurd hrule (hnone rule)

theorem switched_of_not_resolves (h : ∃ key ∈ enable ++ disable, ∀ rule, ¬ l.registry.Resolves key rule) :
    ∃ key, switched l enable disable = .error (.unknownRule key) := by
  obtain ⟨bad, hbad, hnone⟩ := h
  rw [switched_eq]
  rcases Linter.foldlM_switch true l enable with ⟨hok, hall⟩ | ⟨key, -, -, herror⟩
  · rw [hok]
    rcases Linter.foldlM_switch false (l.after (switches enable true)) disable with ⟨-, hall'⟩ | ⟨key, -, -, herror⟩
    · rw [l.registry_after] at hall'
      obtain ⟨rule, hrule⟩ := (List.mem_append.1 hbad).elim (hall bad) (hall' bad)
      exact absurd hrule (hnone rule)
    · exact ⟨key, herror⟩
  · rw [herror]
    exact ⟨key, rfl⟩

end Command

end MarkdownStyle
