/-
The report that fixing returns is about the text that it returns. Fixing lints the edited lines
before it writes them, so the two agree only as far as the written text is split into the same lines
again, which it is for every registry of the built-in rules and of others that offer no edits.
-/
import MarkdownStyle.Proofs.Fix.Clean
import MarkdownStyle.Rule.Listed

namespace MarkdownStyle

/-! ## Registries with further rules -/

theorem mem_placeRule {rules : List Rule} {rule r : Rule} (h : r ∈ placeRule rules rule) :
    r ∈ rules ∨ r = rule := by
  induction rules with
  | nil => exact .inr (List.mem_singleton.1 h)
  | cons first rest ih =>
    rw [placeRule] at h
    split at h
    · rcases List.mem_cons.1 h with rfl | h
      · exact .inr rfl
      · exact .inl (List.mem_cons_of_mem _ h)
    · rcases List.mem_cons.1 h with rfl | h
      · exact .inl (List.mem_cons_self ..)
      · rcases ih h with h | rfl
        · exact .inl (List.mem_cons_of_mem _ h)
        · exact .inr rfl

theorem Registry.mem_rules_foldl_add {g : Registry} {custom : List Rule} {r : Rule}
    (h : r ∈ (custom.foldl add g).rules) : r ∈ g.rules ∨ r ∈ custom := by
  induction custom generalizing g with
  | nil => exact .inl h
  | cons rule rest ih =>
    rcases ih h with h | h
    · rcases mem_placeRule h with h | rfl
      · exact .inl h
      · exact .inr (List.mem_cons_self ..)
    · exact .inr (List.mem_cons_of_mem _ h)

/-- Whether a further rule takes the place of a built-in one or comes after them, the rules stay clean. -/
theorem Registry.offersClean_foldl_add {custom : List Rule} (h : ∀ rule ∈ custom, rule.OffersNothing) :
    ∀ rule ∈ (custom.foldl add .builtin).rules, rule.OffersClean := by
  intro rule hrule
  rcases mem_rules_foldl_add hrule with hbuiltin | hcustom
  · exact builtin_offersClean rule hbuiltin
  · exact (h rule hcustom).offersClean

/-- Rules that report given lines, or fail, offer no edits. -/
theorem Rule.offersNothing_of_listed {r : Rule} {failure : Option String} {reports : List (Int × String)}
    (h : r.check = listedCheck failure reports) : r.OffersNothing := by
  intro d o found hc f hf
  rw [h] at hc
  unfold listedCheck at hc
  split at hc
  · cases hc
  · obtain ⟨report, hreport⟩ := exists_of_mem_mapM hc hf
    unfold listedFinding at hreport
    split at hreport
    · cases hreport
    · cases hreport; rfl

/-! ## Fixed texts -/

/-- What fixing reports is what linting the fixed text reports, issue by issue: the fixed text splits
into the very lines that the report was made from. The further rules are arbitrary but for offering
no edits; one that looks at the path as well is, for the path at hand, a rule like any other. -/
theorem lint_fix {custom : List Rule} (hcustom : ∀ rule ∈ custom, rule.OffersNothing) {config : Mapping}
    {l : Linter} (h : Linter.ofConfig (custom.foldl Registry.add .builtin) config = .ok l) (t : Text)
    (path : String) :
    let fixed := applyEdits (Text.lines t) ((l.lint t path).issues.filterMap (·.edit))
    Text.lines (l.fix t path).1 = fixed ∧
      (l.fix t path).2.issues = l.issues (.ofLines fixed) ∧
      (l.lint (l.fix t path).1 path).issues = (l.fix t path).2.issues := by
  intro fixed
  have hclean : ∀ e ∈ (l.lint t path).issues.filterMap (·.edit), e.Clean :=
    l.clean_edits (Registry.offersClean_foldl_add hcustom) h fun line hline => Text.noBreak_of_mem_lines hline
  have hlines : Text.lines (l.fix t path).1 = fixed := Linter.lines_fix_of_clean hclean
  have hreport : (l.fix t path).2.issues = l.issues (.ofLines fixed) := l.issues_fix t path
  refine ⟨hlines, hreport, ?_⟩
  rw [hreport]
  show l.issues (.ofLines (Text.lines (l.fix t path).1)) = _
  rw [hlines]

/-- A further rule that reports the first line of every document. -/
def openingRule : Rule where
  id := "XX001"
  name := "opening"
  description := ""
  tags := []
  severity := .warning
  fixable := false
  defaults := []
  minimums := []
  check := listedCheck none [(1, "Opens here")]

/-- A list item is laid out anew, in a text with all three line ends and none at its end. -/
theorem lint_fix_of_opening :
    ∃ l, Linter.ofConfig ([openingRule].foldl Registry.add .builtin) [] = .ok l ∧
      let t := "a\r\n- b\rc\nd".toList
      (∃ i ∈ (l.lint t "").issues, i.isFixable = true) ∧
        (l.lint (l.fix t "").1 "").issues = (l.fix t "").2.issues := by
  have hoffers : ∀ rule ∈ [openingRule], rule.OffersNothing := by
    simpa using @Rule.offersNothing_of_listed openingRule none [(1, "Opens here")] rfl
  refine ⟨_, rfl, ?_, (@lint_fix [openingRule] hoffers [] _ rfl _ _).2.2⟩
  simp only [Linter.lint, Linter.lintDocument, Linter.issues, Issue.sort, List.mem_mergeSort,
    ← List.any_eq_true]
  decide

end MarkdownStyle
