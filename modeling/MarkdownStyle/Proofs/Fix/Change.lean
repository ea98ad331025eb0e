/-
What fixing changes. Every edit puts something else in the place of its line, so fixing leaves a
text as it is only if nothing in it is fixable.
-/
import MarkdownStyle.Proofs.Fix.Accepted
import MarkdownStyle.Proofs.Fix.Linter
import MarkdownStyle.Proofs.Rule.Options

namespace MarkdownStyle

/-! ## Accepted styles -/

theorem Setting.eq_of_options? {s : Setting} {o : Options} (h : s.options? = some o) : s.options = o := by
  unfold Setting.options? at h
  split at h
  · exact Option.some.inj h
  · cases h

/-- An integer option of a linter is not below its minimum. -/
theorem Linter.options_atLeast {g : Registry} {config : Mapping} {l : Linter}
    (h : Linter.ofConfig g config = .ok l) {rule : Rule} {setting : Setting} (hm : (rule, setting) ∈ l.rules)
    {key : String} {default minimum : Int} (hd : Mapping.get? rule.defaults (.str key) = some (.int default))
    (hmin : rule.minimums.lookup key = some minimum) (hle : minimum ≤ default) :
    setting.options.AtLeast key minimum := by
  obtain ⟨entries, he⟩ := Linter.exists_effectiveOptions h hm
  exact Rule.effectiveOptions_atLeast he hd hmin hle

/-- A linter works with accepted styles. -/
theorem Linter.mending_valid {config : Mapping} {l : Linter} (h : Linter.ofConfig .builtin config = .ok l) :
    l.mending.Valid := by
  obtain ⟨dash, fence, place, blank, case, hrules⟩ := Linter.rules_of_builtin (Linter.ofConfig_eq_ok h).1
  rw [Linter.mending_eq hrules]
  constructor
  · intro style hs
    obtain ⟨o, ho, rfl⟩ := Option.map_eq_some_iff.1 hs
    rw [← Setting.eq_of_options? ho]
    have hat : dash.options.AtLeast "nested_indent" 1 :=
      Linter.options_atLeast h (show (dashItemRule, dash) ∈ l.rules by simp [hrules]) rfl rfl (by decide)
    exact (hat.int_eq 4).2
  · intro style hs
    obtain ⟨o, ho, rfl⟩ := Option.map_eq_some_iff.1 hs
    rw [← Setting.eq_of_options? ho]
    have hat : dash.options.AtLeast "post_marker_spaces" 1 :=
      Linter.options_atLeast h (show (dashItemRule, dash) ∈ l.rules by simp [hrules]) rfl rfl (by decide)
    exact (hat.int_eq 2).2
  · intro n hn
    obtain ⟨o, ho, rfl⟩ := Option.map_eq_some_iff.1 hn
    rw [← Setting.eq_of_options? ho]
    have hat : fence.options.AtLeast "fence_length" 3 :=
      Linter.options_atLeast h (show (fenceRule, fence) ∈ l.rules by simp [hrules]) rfl rfl (by decide)
    exact (hat.int_eq 4).2

theorem Mending.Valid.feasible {m : Mending} (h : m.Valid) (xs : List Site) : (m.feasible xs).Valid where
  step style hs := h.step style (Option.eq_some_of_filter_eq_some hs)
  gap style hs := h.gap style (Option.eq_some_of_filter_eq_some hs)
  length n hn := h.length n (Option.eq_some_of_filter_eq_some hn)

/-! ## Mended lines -/

namespace Mending

variable {m : Mending} {x : Site}

/-- Every edit changes something. -/
theorem lines_ne (hm : m.Valid) (h : m.edits x ≠ []) : m.lines x ≠ [x.line.text] := by
  have hminds := m.minds_edits x
  unfold lines
  generalize m.edits x = edits at hminds h
  cases hminds with
  | none => exact absurd rfl h
  | @dash style item detail indent hstyle hrole hitem hb hfault =>
    rw [editedLine_replace]
    intro hsame
    exact DashItem.mended_ne (hm.step style hstyle) (hm.gap style hstyle) hitem hfault (List.singleton_inj.1 hsame)
  | @fence length run detail hlength hrole hrun hfault =>
    rw [editedLine_replace]
    intro hsame
    exact FenceStyle.mended_ne (hm.length length hlength) hrun hfault _ (List.singleton_inj.1 hsame)
  | @blank style count level heading hstyle hcount hrole hlt =>
    rw [editedLine_insert]
    intro hsame
    have hlen := congrArg List.length hsame
    simp only [List.length_append, List.length_replicate, List.length_singleton] at hlen
    omega

end Mending

/-! ## Mended documents -/

/-- If every element is replaced, and in the end it is as if each had one replacement, it has that one. -/
theorem eq_singleton_of_flatMap_eq_map {α β : Type} {f : α → List β} {g : α → β} :
    ∀ {xs : List α}, (∀ x ∈ xs, f x ≠ []) → xs.flatMap f = xs.map g → ∀ x ∈ xs, f x = [g x]
  | [], _, _ => by simp
  | x :: xs, hne, h => by
    obtain ⟨hx, hxs⟩ := List.forall_mem_cons.1 hne
    obtain ⟨a, more, ha⟩ := List.exists_cons_of_ne_nil hx
    have hlen := length_le_length_flatMap hxs
    rw [List.flatMap_cons, List.map_cons, ha, List.cons_append, List.cons.injEq] at h
    obtain ⟨rfl, h⟩ := h
    -- every element has at least one replacement, so a second one for the first is one too many
    have hmore : more = [] := by
      have := congrArg List.length h
      rw [List.length_append, List.length_map] at this
      exact List.length_eq_zero_iff.1 (by omega)
    rw [hmore, List.nil_append] at h
    refine List.forall_mem_cons.2 ⟨by rw [ha, hmore], ?_⟩
    exact eq_singleton_of_flatMap_eq_map hxs h

namespace Linter

variable {config : Mapping} {l : Linter}

theorem mendingOf_valid (h : Linter.ofConfig .builtin config = .ok l) (t : Text) : (l.mendingOf t).Valid :=
  (mending_valid h).feasible _

/-- The lines change where something is offered. -/
theorem mendedLines_ne (h : Linter.ofConfig .builtin config = .ok l) {t : Text}
    (hq : ¬ (l.mendingOf t).Quiet (sites (Text.lines t))) : l.mendedLines t ≠ Text.lines t := by
  intro hsame
  have hmap : (sites (Text.lines t)).flatMap (l.mendingOf t).lines = (sites (Text.lines t)).map (·.line.text) := by
    rw [map_text_sites]
    exact hsame
  refine hq fun x hx => ?_
  by_contra hedits
  refine (l.mendingOf t).lines_ne (mendingOf_valid h t) hedits ?_
  exact eq_singleton_of_flatMap_eq_map (fun y _ => (l.mendingOf t).lines_ne_nil y) hmap x hx

/-- Fixing leaves a text as it is exactly if nothing is offered. -/
theorem fix_eq_self_iff_quiet (h : Linter.ofConfig .builtin config = .ok l) (t : Text) (path : String) :
    (l.fix t path).1 = t ↔ (l.mendingOf t).Quiet (sites (Text.lines t)) := by
  constructor
  · intro hfix
    by_contra hq
    refine mendedLines_ne h hq ?_
    rw [← Linter.lines_fix h t path, hfix]
  · exact Linter.fix_of_quiet (Linter.ofConfig_eq_ok h).1 path

end Linter

end MarkdownStyle
