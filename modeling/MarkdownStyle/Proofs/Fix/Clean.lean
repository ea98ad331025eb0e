/-
Edits that keep lines lines: they write no line end into a line and put no empty line in the place
of another. Whatever such edits do to the lines of a text, the lines that come out are read back from
what they are written to. Every rule that offers edits offers clean ones under the options that it
accepts, so a registry of such rules and of rules that offer none leads to clean edits only.
-/
import MarkdownStyle.Proofs.Fix.Mending
import MarkdownStyle.Proofs.Line.Reading
import MarkdownStyle.Proofs.Rule.Options
import MarkdownStyle.Proofs.Text.Lines

namespace MarkdownStyle

/-! ## Clean edits -/

/-- An edit without line ends in its lines, and with something to put in the place of a line. -/
structure LineEdit.Clean (e : LineEdit) : Prop where
  noBreak_replacement : ∀ text, e.replacement = some text → Text.NoBreak text
  replacement_ne_nil : ∀ text, e.replacement = some text → text ≠ []
  noBreak_inserted : ∀ text ∈ e.inserted, Text.NoBreak text

theorem LineEdit.clean_replace {number : Int} {text : Text} (hb : Text.NoBreak text) (hne : text ≠ []) :
    (LineEdit.replace number text).Clean where
  noBreak_replacement t ht := by cases ht; exact hb
  replacement_ne_nil t ht := by cases ht; exact hne
  noBreak_inserted t ht := absurd ht List.not_mem_nil

theorem LineEdit.clean_insert {number : Int} {texts : List Text} (h : ∀ text ∈ texts, Text.NoBreak text) :
    (LineEdit.insert number texts).Clean where
  noBreak_replacement t ht := by cases ht
  replacement_ne_nil t ht := by cases ht
  noBreak_inserted := h

section EditedLine

variable {edits : List LineEdit} {line : Text}

theorem noBreak_editedLine (he : ∀ e ∈ edits, e.Clean) (hl : Text.NoBreak line) :
    ∀ x ∈ editedLine edits line, Text.NoBreak x := by
  intro x hx
  unfold editedLine at hx
  rcases List.mem_append.1 hx with hx | hx
  · obtain ⟨e, hm, hx⟩ := List.mem_flatMap.1 hx
    exact (he e (List.mem_of_mem_filter (List.mem_reverse.1 hm))).noBreak_inserted x hx
  · split at hx
    · rw [List.mem_singleton.1 hx]
      exact hl
    · rename_i e hfind
      have hclean := he e (List.mem_of_find?_eq_some hfind)
      obtain ⟨text, htext⟩ := Option.isSome_iff_exists.1 (by simpa using List.find?_some hfind)
      rcases List.mem_append.1 hx with hx | hx
      · exact hclean.noBreak_inserted x hx
      · rw [htext, Option.getD_some, List.mem_singleton] at hx
        rw [hx]
        exact hclean.noBreak_replacement text htext

/-- What comes last in the place of a line is empty only if the line is. -/
theorem eq_nil_of_getLast?_editedLine (he : ∀ e ∈ edits, e.Clean)
    (h : (editedLine edits line).getLast? = some []) : line = [] := by
  unfold editedLine at h
  split at h
  · simpa using h
  · rename_i e hfind
    obtain ⟨text, htext⟩ := Option.isSome_iff_exists.1 (by simpa using List.find?_some hfind)
    have hnil : text = [] := by simpa [htext] using h
    exact absurd hnil ((he e (List.mem_of_find?_eq_some hfind)).replacement_ne_nil text htext)

end EditedLine

/-! ## Reading back -/

theorem noBreak_applyEdits {lines : List Text} {edits : List LineEdit} (he : ∀ e ∈ edits, e.Clean)
    (hl : ∀ line ∈ lines, Text.NoBreak line) : ∀ line ∈ applyEdits lines edits, Text.NoBreak line := by
  rw [applyEdits_eq_flatMap]
  intro line hline
  obtain ⟨x, hx, hline⟩ := List.mem_flatMap.1 hline
  exact noBreak_editedLine (fun e hm => he e (List.mem_of_mem_filter hm))
    (hl x.1 (List.fst_mem_of_mem_zipIdx hx)) line hline

/-- The last line stays in its place, with whatever is put in front of it. -/
theorem exists_applyEdits_concat (lines : List Text) (line : Text) (edits : List LineEdit) :
    ∃ front : List Text, applyEdits (lines ++ [line]) edits =
      front ++ editedLine (edits.filter (·.line == (lines.length + 1 : Nat))) line := by
  rw [applyEdits_eq_flatMap, List.zipIdx_append, List.flatMap_append]
  refine ⟨_, congrArg _ ?_⟩
  simp [Nat.add_comm]

theorem getLast?_applyEdits {lines : List Text} {edits : List LineEdit} (he : ∀ e ∈ edits, e.Clean)
    (h : (applyEdits lines edits).getLast? = some []) : lines.getLast? = some [] := by
  rcases List.eq_nil_or_concat lines with rfl | ⟨above, line, rfl⟩
  · rw [applyEdits_eq_flatMap] at h
    cases h
  · rw [List.concat_eq_append] at h ⊢
    obtain ⟨front, hfront⟩ := exists_applyEdits_concat above line edits
    rw [hfront, List.getLast?_append_of_ne_nil _ (editedLine_ne_nil _ _)] at h
    rw [eq_nil_of_getLast?_editedLine (fun e hm => he e (List.mem_of_mem_filter hm)) h]
    simp

theorem applyEdits_ne_nil {lines : List Text} (edits : List LineEdit) (h : lines ≠ []) :
    applyEdits lines edits ≠ [] := by
  obtain ⟨above, line, rfl⟩ := (List.eq_nil_or_concat lines).resolve_left h
  obtain ⟨front, hfront⟩ := exists_applyEdits_concat above line edits
  rw [List.concat_eq_append, hfront]
  simp [editedLine_ne_nil]

/-- Lines that clean edits leave are read back from the text that they are written to, in the style
of the text that was edited. -/
theorem lines_writeLines_applyEdits {edits : List LineEdit} (he : ∀ e ∈ edits, e.Clean) (t : Text) :
    Text.lines (Text.writeLines (applyEdits (Text.lines t) edits) t) = applyEdits (Text.lines t) edits := by
  by_cases hne : Text.lines t = []
  · have ht : t = [] := (Text.split_lines t).eq_nil_iff.2 hne
    rw [hne, ht, applyEdits_eq_flatMap]
    rfl
  · refine Text.lines_writeLines ?_ (applyEdits_ne_nil edits hne) fun hbreak hlast => ?_
    · exact noBreak_applyEdits he fun line hline => Text.noBreak_of_mem_lines hline
    · -- an empty last line is written only where the text ends with a line end
      exact Text.getLast?_lines_ne_nil hbreak (getLast?_applyEdits he hlast)

/-! ## Clean rules -/

/-- Among whole lines and under options that it accepts, the rule offers clean edits only. -/
def Rule.OffersClean (r : Rule) : Prop :=
  ∀ (d : Document) (entries : Mapping) (o : Options) (found : List Finding),
    (∀ line ∈ d.lines, Text.NoBreak line) → r.effectiveOptions entries = .ok o → r.check d o = .ok found →
      ∀ f ∈ found, ∀ e, f.edit = some e → e.Clean

/-- The rule offers no edits. -/
def Rule.OffersNothing (r : Rule) : Prop :=
  ∀ (d : Document) (o : Options) (found : List Finding), r.check d o = .ok found → ∀ f ∈ found, f.edit = none

theorem Rule.OffersNothing.offersClean {r : Rule} (h : r.OffersNothing) : r.OffersClean := by
  intro d entries o found _ _ hc f hf e he
  rw [h d o found hc f hf] at he
  cases he

/-- A rule that checks site by site offers clean edits if its check does at every site. -/
theorem SiteCheck.clean_of_findings {check : SiteCheck} {lines : List Text} {found : List Finding}
    (h : check.findings (sites lines) = .ok found) (hl : ∀ line ∈ lines, Text.NoBreak line)
    (hc : ∀ (x : Site) e, Text.NoBreak x.line.text → check.edit? x = some e → e.Clean) :
    ∀ f ∈ found, ∀ e, f.edit = some e → e.Clean := by
  intro f hf e he
  have hedit : e ∈ found.filterMap (·.edit) := List.mem_filterMap.2 ⟨f, hf, he⟩
  rw [(SiteCheck.findings_eq_ok h).2] at hedit
  obtain ⟨x, hx, he⟩ := List.mem_filterMap.1 hedit
  refine hc x e (hl x.line.text ?_) he
  rw [← map_text_sites lines]
  exact List.mem_map_of_mem hx

theorem DashItem.noBreak_mended {style : Style} {indent : Int} {content : Text} (h : Text.NoBreak content) :
    Text.NoBreak (mended style indent content) := by
  have hspaces := fun n => Text.noBreak_replicate (show Text.isBreak ' ' = false by decide) n
  exact (hspaces _).append (Text.noBreak_cons.2 ⟨by decide, (hspaces _).append h⟩)

theorem DashItem.clean_edit? {style : Style} {x : Site} {e : LineEdit} (hx : Text.NoBreak x.line.text)
    (h : (DashItem.check style).edit? x = some e) : e.Clean := by
  obtain ⟨found, hf, he⟩ := SiteCheck.edit?_eq_some.1 h
  obtain ⟨item, detail, indent, -, hitem, -, -, hedit⟩ := DashItem.check_eq_some hf
  obtain ⟨before, gap, htext, -⟩ := ListItem.ofLine?_eq_some.1 hitem
  rw [hedit] at he
  cases he
  have hcontent : Text.NoBreak item.content := hx.of_subset fun c hc => by rw [htext]; simp [hc]
  exact LineEdit.clean_replace (DashItem.noBreak_mended hcontent) (by simp [DashItem.mended])

theorem FenceStyle.noBreak_mended {length : Int} {run : FenceLine} (hindent : Text.NoBreak run.indent)
    (hinfo : Text.NoBreak run.info) (opens : Bool) : Text.NoBreak (mended length run opens) := by
  refine hindent.append ((Text.noBreak_replicate (by decide) _).append ?_)
  cases opens
  · exact Text.noBreak_nil
  · exact hinfo

theorem FenceStyle.mended_ne_nil {length : Int} (hlength : 1 ≤ length) (run : FenceLine) (opens : Bool) :
    mended length run opens ≠ [] := by
  intro h
  have htildes := (List.append_eq_nil_iff.1 (List.append_eq_nil_iff.1 h).2).1
  rw [List.replicate_eq_nil_iff] at htildes
  omega

theorem FenceStyle.clean_edit? {length : Int} (hlength : 1 ≤ length) {x : Site} {e : LineEdit}
    (hx : Text.NoBreak x.line.text) (h : (FenceStyle.check length).edit? x = some e) : e.Clean := by
  obtain ⟨found, hf, he⟩ := SiteCheck.edit?_eq_some.1 h
  obtain ⟨run, detail, -, hrun, -, hedit⟩ := FenceStyle.check_eq_some hf
  obtain ⟨-, htext⟩ := FenceLine.ofLine?_eq_some.1 hrun
  rw [hedit] at he
  cases he
  have hindent : Text.NoBreak run.indent := hx.of_subset fun c hc => by rw [htext]; simp [FenceLine.written, hc]
  have hinfo : Text.NoBreak run.info := hx.of_subset fun c hc => by rw [htext]; simp [FenceLine.written, hc]
  exact LineEdit.clean_replace (FenceStyle.noBreak_mended hindent hinfo _)
    (FenceStyle.mended_ne_nil hlength run _)

theorem BlankLine.clean_edit? {style : Style} {x : Site} {e : LineEdit}
    (h : (BlankLine.check style).edit? x = some e) : e.Clean := by
  obtain ⟨found, hf, he⟩ := SiteCheck.edit?_eq_some.1 h
  obtain ⟨count, level, heading, -, -, -, hedit⟩ := BlankLine.check_eq_some hf
  rw [hedit] at he
  cases he
  refine LineEdit.clean_insert fun text htext => ?_
  rw [List.eq_of_mem_replicate htext]
  exact Text.noBreak_nil

theorem dashItemRule_offersClean : dashItemRule.OffersClean := by
  intro d entries o found hl _ hc
  rw [dashItemRule_check] at hc
  exact SiteCheck.clean_of_findings hc hl fun x e hx he => DashItem.clean_edit? hx he

/-- A fence of fewer than one character would be an empty line. -/
theorem fenceRule_offersClean : fenceRule.OffersClean := by
  intro d entries o found hl ho hc
  have hat : o.AtLeast "fence_length" 3 := Rule.effectiveOptions_atLeast ho rfl rfl (by decide)
  have hlength := (hat.int_eq 4).2
  rw [fenceRule_check] at hc
  exact SiteCheck.clean_of_findings hc hl fun x e hx he => FenceStyle.clean_edit? (by omega) hx he

theorem blankLineRule_offersClean : blankLineRule.OffersClean := by
  intro d entries o found hl _ hc
  rw [blankLineRule_check] at hc
  exact SiteCheck.clean_of_findings hc hl fun x e _ he => BlankLine.clean_edit? he

theorem definitionPlaceRule_offersNothing : definitionPlaceRule.OffersNothing := by
  intro d o found hc f hf
  cases hc
  obtain ⟨misplaced, -, rfl⟩ := List.mem_map.1 hf
  rfl

theorem sentenceCaseRule_offersNothing : sentenceCaseRule.OffersNothing := by
  intro d o found hc f hf
  cases hc
  obtain ⟨heading, -, hheading⟩ := List.mem_filterMap.1 hf
  unfold SentenceCase.finding? at hheading
  split at hheading
  · cases hheading
  · cases hheading; rfl

/-! ## Clean linters -/

theorem builtin_offersClean : ∀ rule ∈ Registry.builtin.rules, rule.OffersClean := by
  rw [builtin_rules]
  simp only [List.forall_mem_cons]
  exact ⟨dashItemRule_offersClean, fenceRule_offersClean, definitionPlaceRule_offersNothing.offersClean,
    blankLineRule_offersClean, sentenceCaseRule_offersNothing.offersClean, by simp⟩

/-- What a rule contributes to a document carries the edits of its findings and no others. -/
theorem Linter.exists_finding {d : Document} {rule : Rule} {setting : Setting} {i : Issue} {e : LineEdit}
    (hi : i ∈ issuesOf d rule setting) (he : i.edit = some e) :
    ∃ found, rule.check d setting.options = .ok found ∧ ∃ f ∈ found, f.edit = some e := by
  unfold issuesOf Rule.issues at hi
  split at hi
  · cases hc : rule.check d setting.options with
    | error failure =>
      rw [hc] at hi
      rw [List.mem_singleton.1 hi] at he
      cases he
    | ok found =>
      rw [hc] at hi
      obtain ⟨f, hf, rfl⟩ := List.mem_map.1 hi
      exact ⟨found, rfl, f, hf, he⟩
  · cases hi

/-- A linter over clean rules offers clean edits, whatever the configuration. -/
theorem Linter.clean_edits {g : Registry} {config : Mapping} {l : Linter}
    (hg : ∀ rule ∈ g.rules, rule.OffersClean) (h : Linter.ofConfig g config = .ok l) {lines : List Text}
    (hl : ∀ line ∈ lines, Text.NoBreak line) :
    ∀ e ∈ (l.issues (.ofLines lines)).filterMap (·.edit), e.Clean := by
  intro e he
  obtain ⟨i, hi, he⟩ := List.mem_filterMap.1 he
  obtain ⟨⟨rule, setting⟩, hm, hi⟩ := List.mem_flatMap.1 (List.mem_mergeSort.1 hi)
  obtain ⟨found, hc, f, hf, he⟩ := exists_finding hi he
  obtain ⟨entries, ho⟩ := Linter.exists_effectiveOptions h hm
  have hrule : rule ∈ g.rules := (Linter.ofConfig_eq_ok h).1 ▸ (List.of_mem_zip hm).1
  exact hg rule hrule (.ofLines lines) entries setting.options found hl ho hc f hf e he

/-! ## Fixing -/

namespace Linter

variable {l : Linter} {t : Text} {path : String}

theorem fix_of_edits_eq_nil (h : (l.lint t path).issues.filterMap (·.edit) = []) :
    l.fix t path = (t, l.lint t path) := by
  change (l.lintDocument (.ofLines (Text.lines t)) path).issues.filterMap (·.edit) = [] at h
  unfold fix
  simp only [h]
  rfl

theorem fix_of_edits_ne_nil (h : (l.lint t path).issues.filterMap (·.edit) ≠ []) :
    let fixed := applyEdits (Text.lines t) ((l.lint t path).issues.filterMap (·.edit))
    (l.fix t path).1 = Text.writeLines fixed t ∧ (l.fix t path).2.issues = l.issues (.ofLines fixed) := by
  change (l.lintDocument (.ofLines (Text.lines t)) path).issues.filterMap (·.edit) ≠ [] at h
  intro fixed
  unfold fix
  dsimp only
  split
  · rename_i hnil
    exact absurd hnil h
  · exact ⟨rfl, rfl⟩

/-- The report of fixing is about the lines with all edits applied. -/
theorem issues_fix (l : Linter) (t : Text) (path : String) :
    (l.fix t path).2.issues =
      l.issues (.ofLines (applyEdits (Text.lines t) ((l.lint t path).issues.filterMap (·.edit)))) := by
  by_cases h : (l.lint t path).issues.filterMap (·.edit) = []
  · rw [fix_of_edits_eq_nil h, h, applyEdits_nil]
    rfl
  · exact (fix_of_edits_ne_nil h).2

/-- If the edits are clean, the text that fixing returns has the edited lines. -/
theorem lines_fix_of_clean (h : ∀ e ∈ (l.lint t path).issues.filterMap (·.edit), e.Clean) :
    Text.lines (l.fix t path).1 =
      applyEdits (Text.lines t) ((l.lint t path).issues.filterMap (·.edit)) := by
  by_cases hnil : (l.lint t path).issues.filterMap (·.edit) = []
  · rw [fix_of_edits_eq_nil hnil, hnil, applyEdits_nil]
  · rw [(fix_of_edits_ne_nil hnil).1, lines_writeLines_applyEdits h t]

end Linter

end MarkdownStyle
