/-
Built-in checks never fail under an accepted configuration. Options are there and of the right kind,
what is looked up in a document is there, and the counts of copies that a rule asks for can be said in
64 bits: the lengths by the limit on options, and a right indent since rounding takes it no further
from the given one than a good half of a step. Only an indent of `2 ^ 61` characters could go beyond.
-/
import MarkdownStyle.Proofs.Decimal.Rounding
import MarkdownStyle.Proofs.Fix.Fixpoint
import MarkdownStyle.Proofs.Linter.Order
import MarkdownStyle.Proofs.Rule.Overlay

namespace MarkdownStyle

/-! ## Right indents -/

namespace BinaryFraction

/-- Rounding a quotient, adding a half and dropping what is behind the point gives no more than the
quotient and a half, each with a fraction of itself. -/
theorem truncate_addHalf_le {a : Int} {s : Nat} (ha : 0 ≤ a) (hs : 0 < s) :
    128 * ((ofQuotient a s).addHalf.truncate * s) ≤ 162 * a + 72 * s := by
  have hrounded := ofQuotient_le ha hs
  have hmantissa := ofQuotient_nonneg ha s
  generalize ofQuotient a s = x at hrounded hmantissa
  have hnum : 0 ≤ x.numerator := numerator_nonneg hmantissa
  have hden : (0 : Int) < x.denominator := by exact_mod_cast twoTo_pos (-x.exponent)
  have hsum := @ofQuotient_le (2 * x.numerator + x.denominator) (2 * x.denominator) (by omega) (by omega)
  have hlevel := (le_truncate_iff (numerator_nonneg (addHalf_nonneg hmantissa))).1 le_rfl
  have hden' : (0 : Int) < x.addHalf.denominator := by exact_mod_cast twoTo_pos (-x.addHalf.exponent)
  change 2 ^ 53 * (x.addHalf.numerator * ((2 * x.denominator : Nat) : Int)) ≤
    (2 ^ 53 + 1) * ((2 * x.numerator + x.denominator) * x.addHalf.denominator) at hsum
  push_cast at hsum
  have hs : (0 : Int) < s := by exact_mod_cast hs
  generalize x.addHalf.truncate = level at *
  generalize x.addHalf.numerator = H at *
  generalize (x.addHalf.denominator : Int) = G at *
  generalize x.numerator = P at *
  generalize (x.denominator : Int) = Q at *
  generalize (s : Int) = t at *
  -- one part in `2 ^ 53` is much less than one in eight
  have hquotient : 8 * (P * t) ≤ 9 * (a * Q) := by
    have := mul_nonneg ha hden.le
    omega
  have hhalf : 16 * (level * Q) ≤ 9 * (2 * P + Q) := by
    refine le_of_mul_le_mul_right ?_ hden'
    have hpos : 0 ≤ (2 * P + Q) * G := mul_nonneg (by omega) hden'.le
    have hscaled : level * G * Q ≤ H * Q := mul_le_mul_of_nonneg_right hlevel hden.le
    calc 16 * (level * Q) * G = 16 * (level * G * Q) := by ring
      _ ≤ 16 * (H * Q) := by omega
      _ ≤ 9 * ((2 * P + Q) * G) := by
          rw [show H * (2 * Q) = 2 * (H * Q) by ring] at hsum
          omega
      _ = 9 * (2 * P + Q) * G := by ring
  refine le_of_mul_le_mul_right ?_ hden
  calc 128 * (level * t) * Q = 8 * (16 * (level * Q) * t) := by ring
    _ ≤ 8 * (9 * (2 * P + Q) * t) := by
        have := mul_le_mul_of_nonneg_right hhalf hs.le
        omega
    _ = 18 * (8 * (P * t)) + 72 * (Q * t) := by ring
    _ ≤ 18 * (9 * (a * Q)) + 72 * (Q * t) := by omega
    _ = (162 * a + 72 * t) * Q := by ring

end BinaryFraction

/-- The length of a line from which on a right indent might be beyond all counts. No memory of a
machine with 64 bit addresses holds such a line, let alone the document around it. -/
def indentLimit : Nat := 2 ^ 61

/-- Some line of a document is that long. -/
def Endless (lines : List Text) : Prop := ∃ line ∈ lines, indentLimit ≤ line.length

theorem closestIndent?_lt {indent step expected : Int} (hi : 1 ≤ indent) (hlimit : indent < indentLimit) (hs : 1 ≤ step)
    (hstep : step < countLimit) (h : closestIndent? indent step = some expected) : expected < countLimit := by
  have hbound := @BinaryFraction.truncate_addHalf_le (indent - 1) step.natAbs (by omega) (by omega)
  have habs : (step.natAbs : Int) = step := Int.natAbs_of_nonneg (by omega)
  unfold closestIndent? at h
  rw [if_neg (by omega), if_neg (by omega), Int.sign_eq_one_of_pos (by omega), mul_one] at h
  rw [habs] at hbound
  cases h
  generalize _ * step = product at hbound ⊢
  unfold countLimit at *
  unfold indentLimit at hlimit
  omega

-- half a step more than the indent is too much for a count, where the indent is that large itself
example : closestIndent? (3 * 2 ^ 61 + 1) (2 ^ 62) = some (2 ^ 63 + 1) := by decide +kernel

/-! ## Checks of sites -/

namespace DashItem

variable {style : Style} {item : ListItem} {detail : String} {indent : Int}

theorem fault?_isOk (hs : 1 ≤ style.step) (item : ListItem) : ∃ fault, fault? style item = .ok fault := by
  unfold fault?
  split
  · exact ⟨_, rfl⟩
  · rw [if_neg (by omega)]
    split
    · exact ⟨_, rfl⟩
    · split <;> exact ⟨_, rfl⟩

/-- The indent that is asked for can be said as a count. -/
theorem indent_lt_of_fault? (hs : 1 ≤ style.step) (hstep : style.step < countLimit) (hi : item.indent < indentLimit)
    (h : fault? style item = .ok (some (detail, indent))) : indent < countLimit := by
  have hbelow : (indentLimit : Int) < countLimit := by decide
  unfold fault? fault?.wrongIndent at h
  split at h
  · cases h
    decide
  · split at h
    · cases h
    · split at h
      · cases h
        obtain ⟨steps, -, hclosest⟩ := @closestIndent?_right item.indent style.step (by omega) hs
        rw [hclosest, Option.getD_some]
        exact closestIndent?_lt (by omega) (by omega) hs hstep hclosest
      · split at h
        · cases h
          omega
        · cases h

theorem indent_le_length {line : Text} (h : ListItem.ofLine? line = some item) : item.indent ≤ line.length := by
  obtain ⟨indent, gap, rfl, hlength, -⟩ := ListItem.ofLine?_eq_some.1 h
  rw [List.length_append]
  omega

theorem check_isOk (hs : 1 ≤ style.step) (hstep : style.step < countLimit) (hg : 1 ≤ style.gap)
    (hgap : style.gap < countLimit) {x : Site} (hx : x.line.text.length < indentLimit) :
    (check style x).isOk = true := by
  unfold check finding?
  split
  · rename_i item _ hitem
    split
    · obtain ⟨fault, hfault⟩ := fault?_isOk hs item
      rw [hfault]
      rcases fault with _ | ⟨detail, indent⟩
      · rfl
      · have hone := (indent_of_fault? hs hfault).1
        have hlt := indent_lt_of_fault? hs hstep (Nat.lt_of_le_of_lt (indent_le_length hitem) hx) hfault
        have hcopies : ∀ n : Int, 1 ≤ n → n < countLimit → copiesOf ' ' n = .ok (List.replicate n.toNat ' ') := by
          intro n hn hn'
          rw [copiesOf, copyCount_isOk (by unfold countLimit; omega) hn']
          rfl
        simp only [bind, Except.bind, layout, hcopies indent hone hlt, hcopies style.gap hg hgap]
        rfl
    · rfl
  · rfl

end DashItem

/-! ## What is looked up in a document -/

/-- What is classified as a fence has a run of markers. -/
theorem exists_run_of_fence {lines : List Text} {line : Line} (hm : line ∈ classify lines) (hr : line.role = .fence) :
    ∃ run, FenceLine.ofLine? line.text = some run ∧ run.Proper := by
  obtain ⟨i, hi⟩ := List.mem_iff_getElem?.1 hm
  have hrole := (getElem?_classify_eq_some.1 hi).2.2
  rw [hr] at hrole
  have hfence := (LineScan.role_eq_fence_iff _ _).1 (LineScan.role_of_finalRole hrole.symm rfl).1
  rcases FenceState.step_cases _ line.text with ⟨run, hrun, -, -⟩ | ⟨-, ⟨run, hrun, -⟩, -⟩ | ⟨-, -, hstep⟩
  · exact ⟨run, hrun, (FenceLine.ofLine?_eq_some.1 hrun).1⟩
  · exact ⟨run, hrun, (FenceLine.ofLine?_eq_some.1 hrun).1⟩
  · rw [hstep] at hfence
    cases hfence

/-- The line of a definition is one of the document. -/
theorem within_of_definition {lines : List Text} {block : Block} {d : Definition}
    (hd : d ∈ definitions (classify lines) block) : 1 ≤ d.line ∧ d.line ≤ lines.length := by
  obtain ⟨line, hm, -, -, hline, -⟩ := definition_line (numbered_classify lines) hd
  have hbounds := (numbered_classify lines).mem_bounds hm
  rw [length_classify] at hbounds
  omega

/-! ## Rules -/

namespace Linter

variable {config : Mapping} {l : Linter} {lines : List Text}

/-- Every option of a rule is there, with a value that the rule takes. -/
theorem takes_of_ofConfig (h : Linter.ofConfig .builtin config = .ok l) {entry : Rule × Setting}
    (he : entry ∈ l.rules) {d : Value × Value} (hd : d ∈ entry.1.defaults) :
    ∃ value, Mapping.get? entry.2.options d.1 = some value ∧ entry.1.Takes (d.1, value) := by
  obtain ⟨entries, ho⟩ := Linter.exists_effectiveOptions h he
  have hrule := builtin_of_mem_rules (Linter.ofConfig_eq_ok h).1 he
  exact Rule.takes_of_effectiveOptions (builtin_regular entry.1 hrule) ho hd

/-- Checks can be carried out, but for the one of list items on an endless line. -/
theorem check_isOk (h : Linter.ofConfig .builtin config = .ok l) (hlim : l.Limited) (lines : List Text)
    {entry : Rule × Setting} (he : entry ∈ l.rules) :
    (entry.1.check (.ofLines lines) entry.2.options).isOk = true ∨ entry.1 = dashItemRule ∧ Endless lines := by
  obtain ⟨dash, fence, place, blank, case, hrules⟩ := Linter.rules_of_builtin (Linter.ofConfig_eq_ok h).1
  have hdash : (dashItemRule, dash) ∈ l.rules := by simp [hrules]
  have hfence : (fenceRule, fence) ∈ l.rules := by simp [hrules]
  have hblank : (blankLineRule, blank) ∈ l.rules := by simp [hrules]
  rw [hrules] at he
  simp only [List.mem_cons, List.not_mem_nil, or_false] at he
  rcases he with rfl | rfl | rfl | rfl | rfl
  · by_cases hlong : Endless lines
    · exact .inr ⟨rfl, hlong⟩
    · left
      have hstep : dash.options.AtLeast "nested_indent" 1 := options_atLeast h hdash rfl rfl (by decide)
      have hgap : dash.options.AtLeast "post_marker_spaces" 1 := options_atLeast h hdash rfl rfl (by decide)
      rw [dashItemRule_check, SiteCheck.findings_isOk]
      intro x hx
      refine DashItem.check_isOk (hstep.int_eq 4).2 (hlim.int_lt hdash hstep 4) (hgap.int_eq 2).2
        (hlim.int_lt hdash hgap 2) ?_
      by_contra hnot
      refine hlong ⟨x.line.text, ?_, by omega⟩
      rw [← map_text_sites lines]
      exact List.mem_map_of_mem hx
  · left
    have hlength : fence.options.AtLeast "fence_length" 3 := options_atLeast h hfence rfl rfl (by decide)
    rw [fenceRule_check, SiteCheck.findings_isOk]
    exact fun x _ => FenceStyle.check_isOk (hlength.int_eq 4).2 (hlim.int_lt hfence hlength 4) x
  · exact .inl rfl
  · left
    have hfirst : blank.options.AtLeast "lines_before_h1" 0 := options_atLeast h hblank rfl rfl (by decide)
    have hsecond : blank.options.AtLeast "lines_before_h2" 0 := options_atLeast h hblank rfl rfl (by decide)
    rw [blankLineRule_check, SiteCheck.findings_isOk]
    refine fun x _ => BlankLine.check_isOk (fun level => ?_) x
    unfold BlankLine.Style.required
    split
    · exact hlim.int_lt hblank hfirst 1
    · exact hlim.int_lt hblank hsecond 2
  · exact .inl rfl

/-- Under an accepted configuration with integers below the limit of counts, nothing is missing and no
check fails. Every option of a rule is there, with a value that the rule takes; every fence has its
run of markers, and every definition a line of the document; each check can be carried out, and each
issue is of a line of the document and tells of no failure. A right indent might be beyond all counts
only on a line of `2 ^ 61` characters. -/
theorem issues_sound (h : Linter.ofConfig .builtin config = .ok l) (hlim : l.Limited) (lines : List Text) :
    (∀ entry ∈ l.rules, ∀ d ∈ entry.1.defaults, ∃ value,
      Mapping.get? entry.2.options d.1 = some value ∧ entry.1.Takes (d.1, value)) ∧
    (∀ line ∈ classify lines, line.role = .fence → ∃ run, FenceLine.ofLine? line.text = some run ∧ run.Proper) ∧
    (∀ block, ∀ d ∈ definitions (classify lines) block, 1 ≤ d.line ∧ d.line ≤ lines.length) ∧
    (∀ entry ∈ l.rules, (entry.1.check (.ofLines lines) entry.2.options).isOk = true ∨
      entry.1 = dashItemRule ∧ Endless lines) ∧
    ∀ i ∈ l.issues (.ofLines lines), (1 ≤ i.line ∧ i.line ≤ (lines.length : Int)) ∧
      ((∀ message, i.detail ≠ "Rule check failed: " ++ message) ∨ i.ruleId = "HM001" ∧ Endless lines) := by
  refine ⟨fun entry he d hd => takes_of_ofConfig h he hd, fun line hm hr => exists_run_of_fence hm hr,
    fun block d hd => within_of_definition hd, fun entry he => check_isOk h hlim lines he, ?_⟩
  intro i hi
  obtain ⟨entry, he, hi⟩ := mem_issues.1 hi
  have hrule := builtin_of_mem_rules (Linter.ofConfig_eq_ok h).1 he
  have hy := yields_issuesOf (.ofLines lines) entry.1 entry.2
  generalize issuesOf (.ofLines lines) entry.1 entry.2 = part at hi hy
  cases hy with
  | off _ => cases hi
  | found _ hcheck =>
    obtain ⟨f, hf, rfl⟩ := List.mem_map.1 hi
    have hfinds := finds_of_check hrule hcheck hf
    obtain ⟨line, hm, hline⟩ := hfinds.exists_line
    have hbounds := (numbered_classify lines).mem_bounds hm
    rw [length_classify] at hbounds
    exact ⟨by simp only; omega, .inl hfinds.detail_ne⟩
  | failed _ hcheck =>
    rcases check_isOk h hlim lines he with hok | ⟨hdash, hlong⟩
    · rw [hcheck] at hok
      cases hok
    · -- an endless line is one, so the failure is reported on a line that exists
      obtain ⟨line, hline, -⟩ := id hlong
      have := List.length_pos_of_mem hline
      rw [List.mem_singleton.1 hi]
      exact ⟨by simp only; omega, .inr ⟨by rw [hdash]; rfl, hlong⟩⟩

/-- In a short document everything is found on a line of it, and no check fails. -/
theorem issues_sound_of_items :
    let lines := ["  - a", "- b", "[x]: y", "", "```"].map String.toList
    let issues := Linter.house.issues (.ofLines lines)
    Linter.ofConfig .builtin [] = .ok .house ∧ Linter.house.Limited ∧ ¬ Endless lines ∧
      (∃ i ∈ issues, i.ruleName = "list-item-marker-space") ∧
      ∀ i ∈ issues, (1 ≤ i.line ∧ i.line ≤ 5) ∧ ∀ message, i.detail ≠ "Rule check failed: " ++ message := by
  intro lines issues
  have hlim : Linter.house.Limited := by decide
  have hshort : ¬ Endless lines := by
    rintro ⟨line, hm, hlong⟩
    have hall : ∀ line ∈ lines, line.length < 10 := by decide
    have := hall line hm
    unfold indentLimit at hlong
    omega
  obtain ⟨-, -, -, -, hissues⟩ := issues_sound Linter.ofConfig_nil hlim lines
  refine ⟨Linter.ofConfig_nil, hlim, hshort, ?_, fun i hi => ?_⟩
  · exact ⟨dashItemRule.issue ⟨2, "Expected 1 leading space(s), found 0", "- b".toList,
      some (.replace 2 " -  b".toList)⟩, List.mem_mergeSort.2 (by decide), rfl⟩
  · exact ⟨(hissues i hi).1, (hissues i hi).2.resolve_right fun hlong => hshort hlong.2⟩

end Linter

end MarkdownStyle
