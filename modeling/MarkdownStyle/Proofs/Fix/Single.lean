/-
One rule by itself. A rule that carries out one check at every site offers the edits of that check, and
applying them mends the document for the check alone. Where the check minds no fences the mended document
replays the old one, and the rule finds nothing more in it.
-/
import MarkdownStyle.Proofs.Fix.Linter
import MarkdownStyle.Proofs.Fix.Replay

namespace MarkdownStyle

/-! ## Rules that carry out one check -/

/-- With these options the rule carries out the check at each site of a document. -/
def Rule.ChecksSites (rule : Rule) (o : Options) (check : SiteCheck) : Prop :=
  ∀ lines, rule.check (.ofLines lines) o = check.findings (sites lines)

theorem dashItemRule_checksSites (o : Options) : dashItemRule.ChecksSites o (DashItem.check (.ofOptions o)) :=
  fun lines => dashItemRule_check (.ofLines lines) o

theorem fenceRule_checksSites (o : Options) :
    fenceRule.ChecksSites o (FenceStyle.check (o.int "fence_length" 4)) :=
  fun lines => fenceRule_check (.ofLines lines) o

theorem blankLineRule_checksSites (o : Options) : blankLineRule.ChecksSites o (BlankLine.check (.ofOptions o)) :=
  fun lines => blankLineRule_check (.ofLines lines) o

theorem Rule.exists_issues {rule : Rule} {d : Document} {o : Options} (h : (rule.issues d o).isOk = true) :
    ∃ issues, rule.issues d o = .ok issues := by
  cases hissues : rule.issues d o with
  | error e => rw [hissues] at h; cases h
  | ok issues => exact ⟨issues, rfl⟩

namespace Rule.ChecksSites

variable {rule : Rule} {o : Options} {check : SiteCheck} {lines : List Text} {issues : List Issue}

theorem issues_isOk (h : rule.ChecksSites o check) :
    (rule.issues (.ofLines lines) o).isOk = true ↔ ∀ x ∈ sites lines, (check x).isOk = true := by
  rw [← SiteCheck.findings_isOk, Rule.issues, h lines]
  cases check.findings (sites lines) <;> rfl

/-- If the rule can be carried out so can its check, and the edits are those of the check. -/
theorem edits_of_issues (h : rule.ChecksSites o check) (hissues : rule.issues (.ofLines lines) o = .ok issues) :
    (∀ x ∈ sites lines, (check x).isOk = true) ∧
      issues.filterMap (·.edit) = (sites lines).filterMap check.edit? := by
  rw [Rule.issues, h lines] at hissues
  cases hfound : check.findings (sites lines) with
  | error e => rw [hfound] at hissues; cases hissues
  | ok found =>
    rw [hfound] at hissues
    cases hissues
    obtain ⟨hok, hedits⟩ := SiteCheck.findings_eq_ok hfound
    have hsame : (found.map rule.issue).filterMap (·.edit) = found.filterMap (·.edit) := List.filterMap_map ..
    exact ⟨hok, hsame.trans hedits⟩

/-- Where every site passes the check the rule finds nothing. -/
theorem issues_eq_nil (h : rule.ChecksSites o check) (hpass : ∀ x ∈ sites lines, check x = .ok none) :
    rule.issues (.ofLines lines) o = .ok [] := by
  have hnone : ∀ xs : List Site, (∀ x ∈ xs, check x = .ok none) → check.findings xs = .ok [] := by
    intro xs hxs
    induction xs with
    | nil => rfl
    | cons x xs ih =>
      obtain ⟨hx, hxs⟩ := List.forall_mem_cons.1 hxs
      rw [SiteCheck.findings_cons, hx, ih hxs]
      rfl
  rw [Rule.issues, h lines, hnone _ hpass]
  rfl

end Rule.ChecksSites

/-! ## Mending for one check -/

namespace Mending

variable {m : Mending} {rule : Rule} {o : Options} {check : SiteCheck} {lines : List Text} {issues : List Issue}

/-- The issues offer what the checks do along the document, and applying their edits mends it. -/
structure MendsBy (m : Mending) (lines : List Text) (issues : List Issue) : Prop where
  runs : ∀ x ∈ sites lines, m.RunsAt x
  edits : ∀ x ∈ sites lines,
    (issues.filterMap (·.edit)).filter (·.line == (x.line.number : Int)) = m.edits x
  applyEdits : applyEdits lines (issues.filterMap (·.edit)) = (sites lines).flatMap m.lines

theorem mendsBy_of_issues (hc : m.checks = [check]) (h : rule.ChecksSites o check)
    (hissues : rule.issues (.ofLines lines) o = .ok issues) : m.MendsBy lines issues := by
  obtain ⟨hok, hedits⟩ := h.edits_of_issues hissues
  have hperm : (issues.filterMap (·.edit)).Perm (m.checks.flatMap fun c => (sites lines).filterMap c.edit?) :=
    .of_eq (by rw [hedits, hc, List.flatMap_singleton])
  refine ⟨fun x hx c hmem => ?_, fun x hx => filter_edits hperm hx, applyEdits_eq hperm⟩
  rw [hc, List.mem_singleton] at hmem
  rw [hmem]
  exact hok x hx

/-- Where no fences are minded the mended document replays the old one and passes. -/
theorem replays_of_unfenced (hm : m.Valid) (hf : m.fence = none) (hruns : ∀ x ∈ sites lines, m.RunsAt x) :
    m.Replays (sites lines) (sites ((sites lines).flatMap m.lines)) ∧
      ∀ y ∈ sites ((sites lines).flatMap m.lines), m.Passes y := by
  have hcode : ∀ x ∈ sites lines, m.KeepsCode x := fun x _ n hn => by rw [hf] at hn; cases hn
  have hlength : ∀ x ∈ sites lines, m.KeepsLength x := fun x _ n hn => by rw [hf] at hn; cases hn
  have hreplays : m.Replays (sites lines) (sites ((sites lines).flatMap m.lines)) :=
    @replays_sitesOn m hm lines _ _ 1 1 none (.start m.fence lines) hruns hcode hlength
  exact ⟨hreplays, hreplays.passes hm hruns hlength⟩

/-- The sites in front of the one that stands for a line hold the texts inserted above it. -/
theorem Stands.map_text_inserted {x y : Site} {inserted : List Site} (h : m.Stands x inserted y)
    {edits : List LineEdit} (hedits : edits.filter (·.line == (x.line.number : Int)) = m.edits x) :
    inserted.map (·.line.text) = insertedAbove edits x.line.number := by
  have hlines := h.lines_eq
  rw [lines, ← hedits, editedLine_filter] at hlines
  exact (List.append_inj' hlines rfl).1

end Mending

end MarkdownStyle
