/-
Looking up keys in lists of pairs. The first pair of a key counts, and where all keys are different it is
the only one.
-/
import Mathlib.Tactic

namespace MarkdownStyle

theorem lookup_cons_eq {α : Type} (e : String × α) (l : List (String × α)) (key : String) :
    (e :: l).lookup key = if key = e.1 then some e.2 else l.lookup key := by
  rw [List.lookup_cons]
  by_cases h : key = e.1
  · rw [beq_iff_eq.2 h, if_pos h]
  · rw [beq_false_of_ne h, if_neg h]

theorem lookup_eq_some_iff_mem {α : Type} {l : List (String × α)} (h : (l.map Prod.fst).Nodup) {key : String}
    {value : α} : l.lookup key = some value ↔ (key, value) ∈ l := by
  induction l with
  | nil => simp
  | cons e rest ih =>
    obtain ⟨hne, hrest⟩ := List.nodup_cons.1 h
    rw [List.lookup_cons, List.mem_cons]
    by_cases hkey : key = e.1
    · have hnot : (key, value) ∉ rest := fun hmem => hne (hkey ▸ List.mem_map_of_mem (f := Prod.fst) hmem)
      simp [hkey, hkey ▸ hnot, Prod.ext_iff, eq_comm]
    · have hbeq : (key == e.1) = false := by simpa using hkey
      simp [hbeq, ih hrest, Prod.ext_iff, hkey]

end MarkdownStyle
