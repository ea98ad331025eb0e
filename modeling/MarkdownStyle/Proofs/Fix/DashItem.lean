/-
What laying out list items anew does to a document. Lines change in their whitespace alone and keep their
roles, with one exception: behind a dash with one space a row of dashes makes the line a break.
-/
import MarkdownStyle.Proofs.Fix.Single
import MarkdownStyle.Proofs.Line.Break
import MarkdownStyle.Proofs.Linter.Run

namespace MarkdownStyle

/-- A text without its whitespace. -/
def Text.unspaced (t : Text) : Text := t.filter fun c => !isBlank c

namespace DashItem

/-! ## Items that become breaks -/

/-- The gap is one space, and the line is edited and an item whose content is a row of at least two dashes. -/
structure Breaks (style : Style) (edits : List LineEdit) (line : Line) : Prop where
  gap : style.gap = 1
  edited : ∃ e ∈ edits, e.line = line.number
  row : ∃ item, ListItem.ofLine? line.text = some item ∧ MarkerRow '-' 2 item.content

/-- What laying out items anew makes of a line. -/
structure Relaid (style : Style) (edits : List LineEdit) (old new : Line) : Prop where
  unspaced : new.text.unspaced = old.text.unspaced
  broken : Breaks style edits old → new.role = .thematicBreak
  kept : ¬ Breaks style edits old → new.role = old.role

/-- Behind a dash with one space, and behind no other, a row of dashes makes a break. -/
theorem isThematicBreak_mended {style : Style} (hg : 1 ≤ style.gap) (indent : Int) (content : Text) :
    isThematicBreak (mended style indent content) = true ↔ style.gap = 1 ∧ MarkerRow '-' 2 content := by
  obtain ⟨g, hgap⟩ : ∃ g, style.gap.toNat = g + 1 := ⟨style.gap.toNat - 1, by omega⟩
  rw [isThematicBreak_iff, trimLeft_mended, hgap, List.replicate_succ, List.cons_append]
  constructor
  · rintro ⟨marker, -, hrow⟩
    have hmarker : '-' = marker := Option.some.inj hrow.head?_eq
    subst hmarker
    rcases (markerRow_cons_iff (by omega)).1 hrow with hrow | ⟨rest, hrest, hrow⟩
    · -- the first thing behind the dash is a space
      cases hrow.head?_eq
    · obtain ⟨-, rfl⟩ := List.cons.inj hrest
      cases g with
      | zero => exact ⟨by omega, hrow⟩
      | succ g => cases hrow.head?_eq
  · rintro ⟨hone, hrow⟩
    obtain rfl : g = 0 := by omega
    exact ⟨'-', .inl rfl, (markerRow_cons_iff (by omega)).2 (.inr ⟨content, rfl, hrow⟩)⟩

/-! ## Sites laid out anew -/

/-- The rule on list items alone. -/
def mending (style : Style) : Mending := ⟨some style, none, none⟩

theorem mending_valid {style : Style} (hs : 1 ≤ style.step) (hg : 1 ≤ style.gap) : (mending style).Valid where
  step _ h := by cases h; exact hs
  gap _ h := by cases h; exact hg
  length _ h := by cases h

variable {style : Style} {edits : List LineEdit} {x y : Site} {inserted xs ys : List Site}

/-- One site stands for a site, that of the same line laid out anew. -/
theorem relaid_of_stands (hg : 1 ≤ style.gap) (h : (mending style).Stands x inserted y)
    (hedits : edits.filter (·.line == (x.line.number : Int)) = (mending style).edits x)
    (hbreak : y.line.role = .text ∨ y.line.role = .thematicBreak →
      (isThematicBreak y.line.text = true ↔ y.line.role = .thematicBreak)) :
    inserted = [] ∧ Relaid style edits x.line y.line := by
  have hedited : (∃ e ∈ edits, e.line = x.line.number) ↔ (mending style).edits x ≠ [] := by
    rw [← hedits, ne_eq, List.filter_eq_nil_iff]
    simp
  have hlines : (mending style).lines x = editedLine ((mending style).edits x) x.line.text := rfl
  have hminds := (mending style).minds_edits x
  generalize hoffered : (mending style).edits x = offered at hedited hlines hminds
  cases hminds with
  | none =>
    obtain ⟨hnone, hrole, htext, -⟩ := h.of_edits_eq_nil hoffered
    refine ⟨hnone, by rw [htext], fun hbreaks => ?_, fun _ => hrole⟩
    exact absurd rfl (hedited.1 hbreaks.edited)
  | @dash _ item detail indent hstyle hr hitem hb hfault =>
    cases hstyle
    rw [editedLine_replace] at hlines
    obtain ⟨hnone, htext⟩ := h.of_lines_eq hlines
    have hplain : y.line.role = .text ∨ y.line.role = .thematicBreak := by
      rcases h.role with hrole | ⟨-, -, hrole⟩
      · exact .inl (hrole.trans hr)
      · exact .inr hrole
    have hbreaks : Breaks style edits x.line ↔ y.line.role = .thematicBreak := by
      rw [← hbreak hplain, htext, isThematicBreak_mended hg]
      constructor
      · rintro ⟨hone, -, item', hitem', hrow⟩
        rw [hitem] at hitem'
        cases hitem'
        exact ⟨hone, hrow⟩
      · rintro ⟨hone, hrow⟩
        exact ⟨hone, hedited.2 (by simp), item, hitem, hrow⟩
    refine ⟨hnone, ?_, hbreaks.1, fun hkept => ?_⟩
    · rw [htext]
      exact filter_mended (fun c hc => by simp [hc]) hitem hb style indent
    · rw [hr]
      exact hplain.resolve_right (mt hbreaks.2 hkept)
  | fence hlength => cases hlength
  | blank hstyle => cases hstyle

theorem relaid_of_replays (hg : 1 ≤ style.gap) (h : (mending style).Replays xs ys)
    (hedits : ∀ x ∈ xs, edits.filter (·.line == (x.line.number : Int)) = (mending style).edits x)
    (hbreak : ∀ y ∈ ys, y.line.role = .text ∨ y.line.role = .thematicBreak →
      (isThematicBreak y.line.text = true ↔ y.line.role = .thematicBreak)) :
    List.Forall₂ (Relaid style edits) (xs.map (·.line)) (ys.map (·.line)) := by
  induction h with
  | nil => exact .nil
  | @cons x y inserted xs ys hstands _ ih =>
    obtain ⟨hx, hxs⟩ := List.forall_mem_cons.1 hedits
    obtain ⟨rfl, hrelaid⟩ := relaid_of_stands hg hstands hx (hbreak y (by simp))
    exact .cons hrelaid (ih hxs fun z hz => hbreak z (List.mem_cons_of_mem _ hz))

end DashItem

/-! ## Every item in its place -/

/-- Laying out the list items of a document anew is done once and for all: the rule finds nothing more. All
lines keep their characters but for whitespace, and their roles, except for the items that become breaks. -/
theorem DashItem.fixed_relaid (lines : List Text) (o : Options) (hstep : 1 ≤ o.int "nested_indent" 4)
    (hgap : 1 ≤ o.int "post_marker_spaces" 2) :
    (o.int "nested_indent" 4 < countLimit → o.int "post_marker_spaces" 2 < countLimit → ¬ Endless lines →
        (dashItemRule.issues (.ofLines lines) o).isOk = true) ∧
      ∀ issues, dashItemRule.issues (.ofLines lines) o = .ok issues →
        let edits := issues.filterMap (·.edit)
        let fixed := applyEdits lines edits
        dashItemRule.issues (.ofLines fixed) o = .ok [] ∧
          List.Forall₂ (Relaid (.ofOptions o) edits) (classify lines) (classify fixed) := by
  have hchecks := dashItemRule_checksSites o
  constructor
  · intro hstepLimit hgapLimit hends
    refine hchecks.issues_isOk.2 fun x hx => check_isOk hstep hstepLimit hgap hgapLimit ?_
    have hline : x.line.text ∈ lines := by
      rw [← map_text_sites lines]
      exact List.mem_map_of_mem hx
    by_contra hlong
    exact hends ⟨x.line.text, hline, by omega⟩
  · intro issues hissues edits fixed
    have hmends : (mending (.ofOptions o)).MendsBy lines issues := Mending.mendsBy_of_issues rfl hchecks hissues
    obtain ⟨hreplays, hpass⟩ := Mending.replays_of_unfenced (mending_valid hstep hgap) rfl hmends.runs
    rw [← hmends.applyEdits] at hreplays hpass
    refine ⟨hchecks.issues_eq_nil fun y hy => (hpass y hy).dash _ rfl, ?_⟩
    rw [← map_line_sites, ← map_line_sites]
    refine relaid_of_replays hgap hreplays hmends.edits fun y hy => ?_
    have hline : y.line ∈ classify fixed := by
      rw [← map_line_sites]
      exact List.mem_map_of_mem hy
    exact isThematicBreak_iff_of_mem_classify hline

/-- With one space behind the dash the first line is a row of three dashes, and a break; the second one stays
an item. -/
theorem DashItem.fixed_relaid_of_dashes :
    let o : Options := [(.str "post_marker_spaces", .int 1)]
    let lines := ["-  - -".toList, "- a".toList]
    1 ≤ o.int "nested_indent" 4 ∧ 1 ≤ o.int "post_marker_spaces" 2 ∧
      ∃ issues, dashItemRule.issues (.ofLines lines) o = .ok issues ∧
        let edits := issues.filterMap (·.edit)
        let fixed := applyEdits lines edits
        dashItemRule.issues (.ofLines fixed) o = .ok [] ∧
          List.Forall₂ (Relaid (.ofOptions o) edits) (classify lines) (classify fixed) ∧
          classify fixed = [⟨1, " - - -".toList, .thematicBreak⟩, ⟨2, " - a".toList, .text⟩] := by
  intro o lines
  refine ⟨by decide, by decide, ?_⟩
  obtain ⟨hok, hfixed⟩ := DashItem.fixed_relaid lines o (by decide) (by decide)
  obtain ⟨issues, hissues⟩ := Rule.exists_issues (hok (by decide) (by decide) (by unfold Endless; decide))
  obtain ⟨hquiet, hrelaid⟩ := hfixed issues hissues
  have hedits : issues.filterMap (·.edit) = [.replace 1 " - - -".toList, .replace 2 " - a".toList] := by
    have hrun : (dashItemRule.issues (.ofLines lines) o).map (·.filterMap (·.edit)) =
        .ok [.replace 1 " - - -".toList, .replace 2 " - a".toList] := rfl
    rw [hissues] at hrun
    exact Except.ok.inj hrun
  refine ⟨issues, hissues, hquiet, hrelaid, ?_⟩
  rw [hedits, applyEdits_eq_flatMap]
  decide

end MarkdownStyle
