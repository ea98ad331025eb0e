/-
The leftmost scan by equations. Where the pattern matches, the scan goes on behind the match, and where
it does not, behind one character; stretches that the pattern never matches in are passed over. The
count of characters that belong to the last match does not show in any of them.
-/
import MarkdownStyle.Text.Scan
import Mathlib.Tactic

namespace MarkdownStyle.Text

section

variable {α : Type} {pattern : Text → Option (Found α)}

theorem scanFrom_eq_drop (skip : Nat) (t : Text) : scanFrom pattern skip t = scan pattern (t.drop skip) := by
  induction t generalizing skip with
  | nil => cases skip <;> rfl
  | cons c rest ih =>
    cases skip with
    | zero => rfl
    | succ skip => exact ih skip

theorem scan_cons_of_none {c : Char} {rest : Text} (h : pattern (c :: rest) = none) :
    scan pattern (c :: rest) = .plain c :: scan pattern rest := by
  rw [scan, scanFrom, h]
  rfl

/-- Behind a match the scan goes on with what follows the match. -/
theorem scan_cons_of_some {c : Char} {rest : Text} {f : Found α} (h : pattern (c :: rest) = some f) :
    scan pattern (c :: rest) = .found f.value :: scan pattern (rest.drop (f.length - 1)) := by
  rw [scan, scanFrom, h]
  simp only
  rw [scanFrom_eq_drop]

theorem scan_append_of_some {taken : Text} (hne : taken ≠ []) {rest : Text} {v : α}
    (h : pattern (taken ++ rest) = some ⟨taken.length, v⟩) :
    scan pattern (taken ++ rest) = .found v :: scan pattern rest := by
  obtain ⟨c, more, rfl⟩ := List.exists_cons_of_ne_nil hne
  rw [List.cons_append] at h ⊢
  rw [scan_cons_of_some h, List.length_cons, Nat.add_sub_cancel, List.drop_left]

/-! ## Readings of matches -/

theorem findAll_cons_of_none {c : Char} {rest : Text} (h : pattern (c :: rest) = none) :
    findAll pattern (c :: rest) = findAll pattern rest := by
  rw [findAll, scan_cons_of_none h]
  rfl

theorem findAll_append_of_some {taken : Text} (hne : taken ≠ []) {rest : Text} {v : α}
    (h : pattern (taken ++ rest) = some ⟨taken.length, v⟩) :
    findAll pattern (taken ++ rest) = v :: findAll pattern rest := by
  rw [findAll, scan_append_of_some hne h]
  rfl

theorem findAll_append_of_none {skipped : Text} (h : ∀ c ∈ skipped, ∀ rest, pattern (c :: rest) = none)
    (rest : Text) : findAll pattern (skipped ++ rest) = findAll pattern rest := by
  induction skipped with
  | nil => rfl
  | cons c skipped ih =>
    obtain ⟨hc, hskipped⟩ := List.forall_mem_cons.1 h
    rw [List.cons_append, findAll_cons_of_none (hc _), ih hskipped]

/-- A match takes at least one character, and no more than there are. -/
def Fits (pattern : Text → Option (Found α)) : Prop :=
  ∀ t f, pattern t = some f → 0 < f.length ∧ f.length ≤ t.length

/-- One step of the scan: what it reads and what is left do not depend on what follows the text, as long
as the pattern does not. -/
theorem exists_step (hp : Fits pattern) {s : Text} (hne : s ≠ []) :
    ∃ rest values, rest <:+ s ∧ rest.length < s.length ∧ findAll pattern s = values ++ findAll pattern rest ∧
      ∀ w, pattern (s ++ w) = pattern s → findAll pattern (s ++ w) = values ++ findAll pattern (rest ++ w) := by
  obtain ⟨c, more, rfl⟩ := List.exists_cons_of_ne_nil hne
  cases hs : pattern (c :: more) with
  | none =>
    exact ⟨more, [], List.suffix_cons c more, by simp, findAll_cons_of_none hs, fun w hw => findAll_cons_of_none hw⟩
  | some f =>
    obtain ⟨hpos, hle⟩ := hp _ f hs
    have hlength : ((c :: more).take f.length).length = f.length := List.length_take_of_le hle
    have htaken : (c :: more).take f.length ≠ [] := List.ne_nil_of_length_pos (by omega)
    have hread : ∀ w, pattern (c :: more ++ w) = some f →
        findAll pattern (c :: more ++ w) = [f.value] ++ findAll pattern ((c :: more).drop f.length ++ w) := by
      intro w hw
      have hfound : pattern ((c :: more).take f.length ++ ((c :: more).drop f.length ++ w)) =
          some ⟨((c :: more).take f.length).length, f.value⟩ := by
        rw [← List.append_assoc, List.take_append_drop, hw, hlength]
      have := findAll_append_of_some htaken hfound
      rwa [← List.append_assoc, List.take_append_drop] at this
    have halone := hread [] (by rwa [List.append_nil])
    rw [List.append_nil, List.append_nil] at halone
    exact ⟨_, _, List.drop_suffix _ _, by rw [List.length_drop]; omega, halone, hread⟩

/-- If no part of a text reads differently for what follows it, the two are scanned one by one. -/
theorem findAll_append (hp : Fits pattern) {s w : Text}
    (h : ∀ back, back <:+ s → back ≠ [] → pattern (back ++ w) = pattern back) :
    findAll pattern (s ++ w) = findAll pattern s ++ findAll pattern w := by
  induction hn : s.length using Nat.strong_induction_on generalizing s with
  | _ n ih =>
    rcases eq_or_ne s [] with rfl | hne
    · rfl
    obtain ⟨rest, values, hsuffix, hlt, halone, hstep⟩ := exists_step hp hne
    have hrest := ih rest.length (hn ▸ hlt) (fun back hb => h back (hb.trans hsuffix)) rfl
    rw [hstep w (h s List.suffix_rfl hne), halone, hrest, List.append_assoc]

end

/-! ## Replaced matches -/

section

variable {pattern : Text → Option (Found Text)}

theorem replaceAll_nil : replaceAll pattern [] = [] := rfl

theorem replaceAll_append_of_some {taken : Text} (hne : taken ≠ []) {rest s : Text}
    (h : pattern (taken ++ rest) = some ⟨taken.length, s⟩) :
    replaceAll pattern (taken ++ rest) = s ++ replaceAll pattern rest := by
  rw [replaceAll, scan_append_of_some hne h]
  rfl

theorem replaceAll_cons_of_none {c : Char} {rest : Text} (h : pattern (c :: rest) = none) :
    replaceAll pattern (c :: rest) = c :: replaceAll pattern rest := by
  rw [replaceAll, scan_cons_of_none h]
  rfl

theorem replaceAll_append_of_none {skipped : Text} (h : ∀ c ∈ skipped, ∀ rest, pattern (c :: rest) = none)
    (rest : Text) : replaceAll pattern (skipped ++ rest) = skipped ++ replaceAll pattern rest := by
  induction skipped with
  | nil => rfl
  | cons c skipped ih =>
    obtain ⟨hc, hskipped⟩ := List.forall_mem_cons.1 h
    rw [List.cons_append, replaceAll_cons_of_none (hc _), ih hskipped, List.cons_append]

end

end MarkdownStyle.Text
