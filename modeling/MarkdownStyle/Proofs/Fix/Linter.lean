/-
Fixing under a configuration of the built-in rules. The enabled rules whose checks can be carried
out offer their edits; what fixing returns is the document with each line mended by itself.
-/
import MarkdownStyle.Proofs.Fix.Clean

namespace MarkdownStyle

/-! ## The checks of a linter -/

/-- The options of a rule, if it is enabled. -/
def Linter.optionsOf (l : Linter) (rule : Rule) : Option Options :=
  (l.rules.find? fun entry => entry.1.name == rule.name && entry.2.enabled).map (·.2.options)

/-- The checks of the enabled rules that offer edits. -/
def Linter.mending (l : Linter) : Mending where
  dash := (l.optionsOf dashItemRule).map .ofOptions
  fence := (l.optionsOf fenceRule).map (·.int "fence_length" 4)
  blank := (l.optionsOf blankLineRule).map .ofOptions

/-- Whether a check can be carried out along a document. -/
def SiteCheck.runs (check : SiteCheck) (xs : List Site) : Bool := (check.findings xs).isOk

/-- The checks that can be carried out along a document. A rule whose check fails offers nothing. -/
def Mending.feasible (m : Mending) (xs : List Site) : Mending where
  dash := m.dash.filter fun style => (DashItem.check style).runs xs
  fence := m.fence.filter fun length => (FenceStyle.check length).runs xs
  blank := m.blank.filter fun style => (BlankLine.check style).runs xs

/-- The options of a setting, if it enables its rule. -/
def Setting.options? (s : Setting) : Option Options := if s.enabled then some s.options else none

theorem Linter.mending_eq {l : Linter} {dash fence place blank case : Setting}
    (h : l.rules = [(dashItemRule, dash), (fenceRule, fence), (definitionPlaceRule, place),
      (blankLineRule, blank), (sentenceCaseRule, case)]) :
    l.mending = ⟨dash.options?.map .ofOptions, fence.options?.map (·.int "fence_length" 4),
      blank.options?.map .ofOptions⟩ := by
  obtain ⟨dash, o⟩ := dash
  obtain ⟨fence, o'⟩ := fence
  obtain ⟨blank, o''⟩ := blank
  unfold mending optionsOf
  rw [h]
  cases dash <;> cases fence <;> cases blank <;> rfl

/-! ## The edits of a linter -/

/-- A rule that checks site by site offers the edits of the sites, unless its check fails. -/
theorem Linter.edits_issuesOf {d : Document} {rule : Rule} {setting : Setting} {check : Options → SiteCheck}
    {xs : List Site} (hc : ∀ o, rule.check d o = (check o).findings xs) :
    (issuesOf d rule setting).filterMap (·.edit) =
      ((setting.options?.map check).filter (·.runs xs)).toList.flatMap fun c => xs.filterMap c.edit? := by
  unfold issuesOf Setting.options? Rule.issues
  cases setting.enabled with
  | false => rfl
  | true =>
    rw [if_pos rfl, if_pos rfl, hc, Option.map_some]
    cases hf : (check setting.options).findings xs with
    | error failure =>
      have hruns : (check setting.options).runs xs = false := by rw [SiteCheck.runs, hf]; rfl
      simp [hruns, Except.map, failureIssue]
    | ok found =>
      have hruns : (check setting.options).runs xs = true := by rw [SiteCheck.runs, hf]; rfl
      have hedits := (SiteCheck.findings_eq_ok hf).2
      simp only [Except.map, List.filterMap_map, Function.comp_def, Rule.issue, hedits]
      rw [Option.filter_some, if_pos hruns, Option.toList_some, List.flatMap_singleton]

theorem Linter.edits_issuesOf_eq_nil {d : Document} {rule : Rule} {setting : Setting}
    (h : rule.OffersNothing) : (issuesOf d rule setting).filterMap (·.edit) = [] := by
  rw [List.filterMap_eq_nil_iff]
  intro i hi
  by_contra hne
  obtain ⟨e, he⟩ := Option.ne_none_iff_exists'.1 hne
  obtain ⟨found, hc, f, hf, he⟩ := exists_finding hi he
  rw [h d setting.options found hc f hf] at he
  cases he

/-- The edits that a linter offers are those of its checks, in some order. -/
theorem Linter.edits_perm {l : Linter} (h : l.registry = .builtin) (lines : List Text) :
    ((l.issues (.ofLines lines)).filterMap (·.edit)).Perm
      ((l.mending.feasible (sites lines)).checks.flatMap fun c => (sites lines).filterMap c.edit?) := by
  obtain ⟨dash, fence, place, blank, case, hrules⟩ := Linter.rules_of_builtin h
  refine ((List.mergeSort_perm _ _).filterMap _).trans ?_
  have hdash := @edits_issuesOf (.ofLines lines) dashItemRule dash (fun o => DashItem.check (.ofOptions o))
    (sites lines) (dashItemRule_check _)
  have hfence := @edits_issuesOf (.ofLines lines) fenceRule fence
    (fun o => FenceStyle.check (o.int "fence_length" 4)) (sites lines) (fenceRule_check _)
  have hblank := @edits_issuesOf (.ofLines lines) blankLineRule blank (fun o => BlankLine.check (.ofOptions o))
    (sites lines) (blankLineRule_check _)
  have hplace := @edits_issuesOf_eq_nil (.ofLines lines) definitionPlaceRule place definitionPlaceRule_offersNothing
  have hcase := @edits_issuesOf_eq_nil (.ofLines lines) sentenceCaseRule case sentenceCaseRule_offersNothing
  -- in the order of the rules, with nothing from those that offer no edits
  rw [hrules, mending_eq hrules]
  simp only [List.flatMap_cons, List.flatMap_nil, List.filterMap_append, List.filterMap_nil, hdash, hfence, hplace,
    hblank, hcase]
  simp [Mending.feasible, Mending.checks, Option.filter_map, Function.comp_def]

/-! ## Mending a document -/

/-- Among what comes from elements with different keys, a key picks what comes from one element. -/
theorem filter_filterMap_of_nodup {α β γ : Type} [DecidableEq γ] {g : α → Option β} {f : α → γ} {key : β → γ}
    (hkey : ∀ a b, g a = some b → key b = f a) :
    ∀ {xs : List α} {x : α}, (xs.map f).Nodup → x ∈ xs →
      (xs.filterMap g).filter (fun b => key b == f x) = (g x).toList
  | [], x, _, hx => absurd hx List.not_mem_nil
  | y :: ys, x, hn, hx => by
    rw [List.map_cons, List.nodup_cons] at hn
    have hother : ∀ z ∈ ys, ∀ b, g z = some b → key b ≠ f y := by
      intro z hz b hb h
      exact hn.1 (List.mem_map.2 ⟨z, hz, (hkey z b hb).symm.trans h⟩)
    rw [← List.singleton_append, List.filterMap_append, List.filter_append]
    rcases List.mem_cons.1 hx with rfl | hx
    · have hrest : (ys.filterMap g).filter (fun b => key b == f x) = [] := by
        rw [List.filter_eq_nil_iff]
        intro b hb
        obtain ⟨z, hz, hzb⟩ := List.mem_filterMap.1 hb
        simpa using hother z hz b hzb
      rw [hrest, List.append_nil]
      cases hg : g x with
      | none => simp [hg]
      | some b => simp [hg, hkey x b hg]
    · rw [filter_filterMap_of_nodup hkey hn.2 hx]
      cases hg : g y with
      | none => simp [hg]
      | some b =>
        have hne : f y ≠ f x := fun h => hn.1 (List.mem_map.2 ⟨x, hx, h.symm⟩)
        simp [hg, hkey y b hg, hne]

/-- The edits of a line are those that are offered at its site. -/
theorem Mending.filter_edits {m : Mending} {lines : List Text} {edits : List LineEdit}
    (h : edits.Perm (m.checks.flatMap fun c => (sites lines).filterMap c.edit?)) {x : Site} (hx : x ∈ sites lines) :
    edits.filter (·.line == (x.line.number : Int)) = m.edits x := by
  have hline : ∀ c ∈ m.checks, ∀ y e, c.edit? y = some e → e.line = (y.line.number : Int) := fun c hc y e he =>
    (m.minds_edits y).line_eq e (List.mem_filterMap.2 ⟨c, hc, he⟩)
  have hnodup : ((sites lines).map fun x => (x.line.number : Int)).Nodup := by
    have hrange : ((sites lines).map (·.line.number)).Nodup := by
      rw [map_number_sites]
      exact List.nodup_range'
    have := hrange.map Int.ofNat_injective
    rwa [List.map_map] at this
  have hperm := h.filter (·.line == (x.line.number : Int))
  rw [List.filter_flatMap] at hperm
  rw [List.flatMap_congr fun c hc => filter_filterMap_of_nodup (hline c hc) hnodup hx] at hperm
  rw [← List.filterMap_eq_flatMap_toList] at hperm
  -- there is at most one of them, so their order does not matter
  have hle := (m.minds_edits x).length_le
  change List.Perm _ (m.edits x) at hperm
  rcases he : m.edits x with _ | ⟨e, _ | ⟨f, rest⟩⟩
  · rw [he] at hperm
    exact hperm.eq_nil
  · rw [he] at hperm
    exact hperm.eq_singleton
  · rw [he] at hle
    simp at hle

/-- Applying the edits of checks mends each line by itself. -/
theorem Mending.applyEdits_eq {m : Mending} {lines : List Text} {edits : List LineEdit}
    (h : edits.Perm (m.checks.flatMap fun c => (sites lines).filterMap c.edit?)) :
    applyEdits lines edits = (sites lines).flatMap m.lines := by
  rw [applyEdits_eq_flatMap, ← map_zipIdx_sites, List.flatMap_map]
  refine List.flatMap_congr fun x hx => ?_
  rw [Mending.filter_edits h hx]
  rfl

/-! ## Fixing -/

/-- The checks that the linter carries out on the lines of a text. -/
def Linter.mendingOf (l : Linter) (t : Text) : Mending := l.mending.feasible (sites (Text.lines t))

/-- The lines of the text that fixing returns. -/
def Linter.mendedLines (l : Linter) (t : Text) : List Text := (sites (Text.lines t)).flatMap (l.mendingOf t).lines

/-- Nothing is offered anywhere. -/
def Mending.Quiet (m : Mending) (xs : List Site) : Prop := ∀ x ∈ xs, m.edits x = []

instance (m : Mending) (xs : List Site) : Decidable (m.Quiet xs) :=
  inferInstanceAs (Decidable (∀ x ∈ xs, m.edits x = []))

theorem Mending.quiet_iff {m : Mending} {xs : List Site} :
    m.Quiet xs ↔ (m.checks.flatMap fun c => xs.filterMap c.edit?) = [] := by
  constructor
  · intro h
    rw [List.flatMap_eq_nil_iff]
    intro c hc
    rw [List.filterMap_eq_nil_iff]
    intro x hx
    have := h x hx
    exact List.filterMap_eq_nil_iff.1 this c hc
  · intro h x hx
    rw [List.flatMap_eq_nil_iff] at h
    exact List.filterMap_eq_nil_iff.2 fun c hc => List.filterMap_eq_nil_iff.1 (h c hc) x hx

/-- Where nothing is offered nothing changes. -/
theorem Mending.flatMap_lines {m : Mending} {xs : List Site} (h : m.Quiet xs) :
    xs.flatMap m.lines = xs.map (·.line.text) := by
  have hline : ∀ x ∈ xs, m.lines x = [x.line.text] := by
    intro x hx
    rw [Mending.lines, h x hx, editedLine_nil]
  rw [List.flatMap_congr hline, List.map_eq_flatMap]

theorem Linter.quiet_iff_edits {l : Linter} (h : l.registry = .builtin) (t : Text) :
    (l.mendingOf t).Quiet (sites (Text.lines t)) ↔
      (l.issues (.ofLines (Text.lines t))).filterMap (·.edit) = [] := by
  have hperm := l.edits_perm h (Text.lines t)
  rw [Mending.quiet_iff]
  constructor
  · intro hnil
    rw [mendingOf] at hnil
    rw [hnil] at hperm
    exact hperm.eq_nil
  · intro hnil
    rw [hnil] at hperm
    exact hperm.symm.eq_nil

/-- Nothing is offered exactly when no issue of the text is fixable. -/
theorem Linter.quiet_iff {l : Linter} (h : l.registry = .builtin) (t : Text) (path : String) :
    (l.mendingOf t).Quiet (sites (Text.lines t)) ↔ ∀ i ∈ (l.lint t path).issues, i.isFixable = false := by
  rw [l.quiet_iff_edits h, List.filterMap_eq_nil_iff]
  simp only [Issue.isFixable, Option.isSome_eq_false_iff, Option.isNone_iff_eq_none]
  rfl

theorem Linter.fix_of_quiet {l : Linter} (h : l.registry = .builtin) {t : Text} (path : String)
    (hq : (l.mendingOf t).Quiet (sites (Text.lines t))) : (l.fix t path).1 = t := by
  rw [fix_of_edits_eq_nil ((l.quiet_iff_edits h t).1 hq)]

/-- The mended lines are the lines with all edits applied. -/
theorem Linter.applyEdits_eq_mendedLines {l : Linter} (h : l.registry = .builtin) (t : Text) :
    applyEdits (Text.lines t) ((l.issues (.ofLines (Text.lines t))).filterMap (·.edit)) = l.mendedLines t :=
  Mending.applyEdits_eq (l.edits_perm h (Text.lines t))

/-- Fixing writes the mended lines. -/
theorem Linter.fix_of_not_quiet {l : Linter} (h : l.registry = .builtin) {t : Text} (path : String)
    (hq : ¬ (l.mendingOf t).Quiet (sites (Text.lines t))) :
    (l.fix t path).1 = Text.writeLines (l.mendedLines t) t := by
  rw [← applyEdits_eq_mendedLines h]
  exact (@fix_of_edits_ne_nil l t path (mt (l.quiet_iff_edits h t).2 hq)).1

/-- The text that fixing returns has the mended lines. -/
theorem Linter.lines_fix {config : Mapping} {l : Linter} (h : Linter.ofConfig .builtin config = .ok l) (t : Text)
    (path : String) : Text.lines (l.fix t path).1 = l.mendedLines t := by
  rw [← applyEdits_eq_mendedLines (Linter.ofConfig_eq_ok h).1]
  exact lines_fix_of_clean (clean_edits builtin_offersClean h fun line hline => Text.noBreak_of_mem_lines hline)

end MarkdownStyle
