/-
The issues of the built-in rules do not collide. No rule reports a line twice, so issues are strictly
ordered by line and rule; and no two rules offer edits for one line, so every edit is applied, each to
its own line of the document.
-/
import MarkdownStyle.Proofs.Fix.Linter
import MarkdownStyle.Proofs.Linter.Isolation
import MarkdownStyle.Proofs.Rule.Findings

namespace MarkdownStyle

/-! ## Edits of different lines -/

namespace Patch

/-- An edit within the document is carried out, unless its line was replaced before. -/
theorem apply_inside {p : Patch} {e : LineEdit} (hin : 1 ≤ e.line ∧ e.line ≤ p.lines.length)
    (hr : e.line ∉ p.replaced) : (p.apply e).lines.length = p.lines.length + e.inserted.length ∧
      ∀ n ∈ (p.apply e).replaced, n = e.line ∨ n ∈ p.replaced := by
  have hinside : ¬ ((e.line < 1 || (p.lines.length : Int) < e.line) = true) := by
    simp only [Bool.or_eq_true, decide_eq_true_eq]
    omega
  have hinsert : ∀ (q : Patch) (texts : List Text), (q.insertAt (e.line - 1).toNat texts).lines.length =
      q.lines.length + texts.length := by
    intro q texts
    simp only [insertAt, List.length_append, List.length_take, List.length_drop]
    omega
  unfold apply
  simp only [if_neg hinside, List.contains_iff_mem, hr, if_false]
  cases e.replacement with
  | none => exact ⟨hinsert p _, fun n hn => .inr hn⟩
  | some text =>
    refine ⟨(hinsert _ _).trans ?_, fun n hn => List.mem_cons.1 hn⟩
    rw [List.length_set]

theorem length_foldl_apply {edits : List LineEdit} {p : Patch} (hn : (edits.map (·.line)).Nodup)
    (hin : ∀ e ∈ edits, 1 ≤ e.line ∧ e.line ≤ p.lines.length) (hr : ∀ e ∈ edits, e.line ∉ p.replaced) :
    (edits.foldl apply p).lines.length = p.lines.length + (edits.map (·.inserted.length)).sum := by
  induction edits generalizing p with
  | nil => rfl
  | cons e edits ih =>
    obtain ⟨hnot, hn⟩ := List.nodup_cons.1 hn
    obtain ⟨⟨hfirst, hlast⟩, hin⟩ := List.forall_mem_cons.1 hin
    obtain ⟨hre, hr⟩ := List.forall_mem_cons.1 hr
    obtain ⟨hlength, hreplaced⟩ := apply_inside ⟨hfirst, hlast⟩ hre
    rw [List.foldl_cons, ih hn, hlength, List.map_cons, List.sum_cons, Nat.add_assoc]
    · intro other hother
      have := hin other hother
      omega
    · intro other hother hmem
      rcases hreplaced _ hmem with hsame | hbefore
      · exact hnot (List.mem_map.2 ⟨other, hother, hsame⟩)
      · exact hr other hother hbefore

end Patch

section

variable {lines : List Text} {edits : List LineEdit}

theorem length_applyEdits (hn : (edits.map (·.line)).Nodup)
    (hin : ∀ e ∈ edits, 1 ≤ e.line ∧ e.line ≤ lines.length) :
    (applyEdits lines edits).length = lines.length + (edits.map (·.inserted.length)).sum := by
  have hperm := List.mergeSort_perm edits LineEdit.notAfter
  unfold applyEdits
  rw [Patch.length_foldl_apply ((hperm.map _).nodup_iff.2 hn) (fun e he => hin e (hperm.mem_iff.1 he))
    fun _ _ => List.not_mem_nil, (hperm.map _).sum_eq]

theorem editedLine_singleton (e : LineEdit) (line : Text) :
    editedLine [e] line = e.inserted ++ [e.replacement.getD line] := by
  unfold editedLine
  cases hr : e.replacement <;> simp [hr]

theorem filter_line_of_nodup (hn : (edits.map (·.line)).Nodup) (number : Int) :
    edits.filter (·.line == number) = (edits.find? (·.line == number)).toList := by
  induction edits with
  | nil => rfl
  | cons e edits ih =>
    obtain ⟨hnot, hn⟩ := List.nodup_cons.1 hn
    rw [List.filter_cons, List.find?_cons]
    cases he : e.line == number with
    | true =>
      have hrest : edits.filter (·.line == number) = [] := by
        refine List.filter_eq_nil_iff.2 fun other hother heq => hnot ?_
        exact List.mem_map.2 ⟨other, hother, (beq_iff_eq.1 heq).trans (beq_iff_eq.1 he).symm⟩
      rw [if_pos rfl, hrest]
      rfl
    | false => rw [if_neg Bool.false_ne_true, ih hn]

/-- Edits of different lines are all applied, each to its own line. -/
theorem applyEdits_of_nodup (hn : (edits.map (·.line)).Nodup) :
    applyEdits lines edits = (lines.zipIdx 1).flatMap fun x =>
      match edits.find? (fun e => e.line == (x.2 : Int)) with
      | some e => e.inserted ++ [e.replacement.getD x.1]
      | none => [x.1] := by
  rw [applyEdits_eq_flatMap]
  refine List.flatMap_congr fun x _ => ?_
  rw [filter_line_of_nodup hn]
  cases edits.find? (·.line == (x.2 : Int)) with
  | none => exact editedLine_nil x.1
  | some e => exact editedLine_singleton e x.1

end

/-! ## Issues in strict order -/

/-- Before another issue by line and rule id, and not at the same place. -/
def Issue.Before (a b : Issue) : Prop := a.line < b.line ∨ a.line = b.line ∧ a.ruleId < b.ruleId

theorem Issue.InOrder.before {a b : Issue} (h : a.InOrder b) (hne : ¬ (a.line = b.line ∧ a.ruleId = b.ruleId)) :
    a.Before b := by
  rcases h with hlt | ⟨heq, hle⟩
  · exact .inl hlt
  · refine .inr ⟨heq, String.not_le.1 fun hge => hne ⟨heq, String.le_antisymm hle hge⟩⟩

namespace Linter

variable {l : Linter} {lines : List Text} {rule : Rule} {setting : Setting} {i : Issue} {e : LineEdit}

theorem builtin_of_mem_rules (h : l.registry = .builtin) {entry : Rule × Setting} (he : entry ∈ l.rules) :
    entry.1 ∈ Registry.builtin.rules := by
  rw [← h, ← l.map_fst_rules]
  exact List.mem_map_of_mem he

theorem mem_issues : i ∈ l.issues (.ofLines lines) ↔
    ∃ entry ∈ l.rules, i ∈ issuesOf (.ofLines lines) entry.1 entry.2 := by
  rw [issues_eq, (Issue.sort_stable _).perm.mem_iff, List.mem_flatMap]

/-- What a rule yields is on different lines, one below the other. -/
theorem pairwise_issuesOf (hr : rule ∈ Registry.builtin.rules) (lines : List Text) (setting : Setting) :
    (issuesOf (.ofLines lines) rule setting).Pairwise fun a b => a.line < b.line := by
  have hy := yields_issuesOf (.ofLines lines) rule setting
  generalize issuesOf (.ofLines lines) rule setting = part at hy
  cases hy with
  | off _ => exact .nil
  | found _ hcheck =>
    rw [List.pairwise_map]
    exact pairwise_check hr hcheck
  | failed _ _ => exact List.pairwise_singleton _ _

theorem pairwise_before (h : l.registry = .builtin) (lines : List Text) :
    (l.issues (.ofLines lines)).Pairwise Issue.Before := by
  have hids : l.rules.Pairwise fun a b => a.1.id ≠ b.1.id := by
    have hn : (l.registry.rules.map Rule.id).Nodup := by
      rw [h]
      decide
    rw [← l.map_fst_rules, List.map_map] at hn
    exact List.pairwise_map.1 hn
  have hraw : (l.rules.flatMap fun entry => issuesOf (.ofLines lines) entry.1 entry.2).Pairwise
      fun a b => ¬ (a.line = b.line ∧ a.ruleId = b.ruleId) := by
    rw [List.pairwise_flatMap]
    constructor
    · intro entry he
      exact (pairwise_issuesOf (builtin_of_mem_rules h he) lines entry.2).imp fun hlt hsame => by omega
    · refine hids.imp fun hne a ha b hb hsame => hne ?_
      rw [← (rule_of_mem_issuesOf ha).1, ← (rule_of_mem_issuesOf hb).1, hsame.2]
  have hsorted := Issue.sort_stable (l.rules.flatMap fun entry => issuesOf (.ofLines lines) entry.1 entry.2)
  have hne := (hsorted.perm.symm.pairwise_iff fun hab hba => hab ⟨hba.1.symm, hba.2.symm⟩).1 hraw
  rw [issues_eq]
  exact (hsorted.ordered.and hne).imp fun hab => hab.1.before hab.2

/-- Issues of one rule have one id. -/
theorem ruleId_eq_of_ruleName {a b : Issue} (ha : a ∈ l.issues (.ofLines lines)) (hb : b ∈ l.issues (.ofLines lines))
    (hname : a.ruleName = b.ruleName) : a.ruleId = b.ruleId := by
  obtain ⟨entry, hentry, ha⟩ := mem_issues.1 ha
  obtain ⟨entry', hentry', hb⟩ := mem_issues.1 hb
  rw [(rule_of_mem_issuesOf ha).2, (rule_of_mem_issuesOf hb).2] at hname
  rw [(rule_of_mem_issuesOf ha).1, (rule_of_mem_issuesOf hb).1,
    List.inj_on_of_nodup_map l.nodup_names_rules hentry hentry' hname]

/-- No rule reports a line twice. -/
theorem pairwise_filter_ruleName (h : l.registry = .builtin) (lines : List Text) (name : String) :
    ((l.issues (.ofLines lines)).filter (·.ruleName == name)).Pairwise fun a b => a.line < b.line := by
  refine (List.Pairwise.and_mem.1 ((pairwise_before h lines).filter _)).imp ?_
  rintro a b ⟨ha, hb, hab⟩
  obtain ⟨ha, haname⟩ := List.mem_filter.1 ha
  obtain ⟨hb, hbname⟩ := List.mem_filter.1 hb
  have hid := ruleId_eq_of_ruleName ha hb ((beq_iff_eq.1 haname).trans (beq_iff_eq.1 hbname).symm)
  exact hab.resolve_right fun hlt => String.lt_irrefl b.ruleId (hid ▸ hlt.2)

/-! ## The edits of issues -/

/-- The edit of an issue is one of its line, and mends what its rule minds. -/
theorem mends_of_mem_issues (h : l.registry = .builtin) (hi : i ∈ l.issues (.ofLines lines)) (he : i.edit = some e) :
    e.line = i.line ∧ e.Mends (classify lines) i.ruleId := by
  obtain ⟨entry, hentry, hi⟩ := mem_issues.1 hi
  have hy := yields_issuesOf (.ofLines lines) entry.1 entry.2
  generalize issuesOf (.ofLines lines) entry.1 entry.2 = part at hi hy
  cases hy with
  | off _ => cases hi
  | found _ hcheck =>
    obtain ⟨f, hf, rfl⟩ := List.mem_map.1 hi
    exact (finds_of_check (builtin_of_mem_rules h hentry) hcheck hf).mends he
  | failed _ _ =>
    rw [List.mem_singleton.1 hi] at he
    cases he

/-- Edits come in the order of their lines, no two of one line. -/
theorem pairwise_edits (h : l.registry = .builtin) (lines : List Text) :
    ((l.issues (.ofLines lines)).filterMap (·.edit)).Pairwise fun e f => e.line < f.line := by
  refine List.Pairwise.filterMap _ ?_ (List.Pairwise.and_mem.1 (pairwise_before h lines))
  rintro a b ⟨ha, hb, hab⟩ e he f hf
  obtain ⟨hline, hmends⟩ := mends_of_mem_issues h ha he
  obtain ⟨hline', hmends'⟩ := mends_of_mem_issues h hb hf
  rcases hab with hlt | ⟨heq, hid⟩
  · omega
  · rw [hmends.id_eq (numbered_classify lines) hmends' (by omega)] at hid
    exact absurd hid (String.lt_irrefl _)

theorem within_of_mends {doc : List Line} (hn : Numbered 1 doc) {id : String} (h : e.Mends doc id) :
    1 ≤ e.line ∧ e.line ≤ doc.length := by
  have hbounds : ∀ {line : Line}, line ∈ doc → (1 : Int) ≤ line.number ∧ (line.number : Int) ≤ doc.length := by
    intro line hm
    have := hn.mem_bounds hm
    omega
  cases h with
  | item hm _ => exact hbounds hm
  | fence hm _ => exact hbounds hm
  | heading hm _ _ => exact hbounds hm

/-- Under an accepted configuration issues are strictly ordered by line and rule, so that no rule
reports a line twice. Every edit is one of the line of its issue and of a role that its rule alone
minds; the edits are of different lines of the document, all of them are applied, and each inserted
line makes the document one line longer. -/
theorem issues_separate {config : Mapping} {l : Linter} (h : Linter.ofConfig .builtin config = .ok l)
    (lines : List Text) :
    let issues := l.issues (.ofLines lines)
    let edits := issues.filterMap (·.edit)
    issues.Pairwise Issue.Before ∧
      (∀ name, (issues.filter (·.ruleName == name)).Pairwise fun a b => a.line < b.line) ∧
      (∀ i ∈ issues, ∀ e, i.edit = some e → e.line = i.line ∧ e.Mends (classify lines) i.ruleId) ∧
      edits.Pairwise (fun e f => e.line < f.line) ∧ (∀ e ∈ edits, 1 ≤ e.line ∧ e.line ≤ (lines.length : Int)) ∧
      (applyEdits lines edits = (lines.zipIdx 1).flatMap fun x =>
        match edits.find? (fun e => e.line == (x.2 : Int)) with
        | some e => e.inserted ++ [e.replacement.getD x.1]
        | none => [x.1]) ∧
      (applyEdits lines edits).length = lines.length + (edits.map (·.inserted.length)).sum ∧
      ∀ t path, Text.lines t = lines → Text.lines (l.fix t path).1 = applyEdits lines edits := by
  intro issues edits
  have hg := (Linter.ofConfig_eq_ok h).1
  have hedits := pairwise_edits hg lines
  have hnodup : (edits.map (·.line)).Nodup := by
    rw [List.Nodup, List.pairwise_map]
    exact hedits.imp fun hlt => ne_of_lt hlt
  have hwithin : ∀ e ∈ edits, 1 ≤ e.line ∧ e.line ≤ lines.length := by
    intro e he
    obtain ⟨i, hi, he⟩ := List.mem_filterMap.1 he
    have hbounds := within_of_mends (numbered_classify lines) (mends_of_mem_issues hg hi he).2
    rwa [length_classify] at hbounds
  refine ⟨pairwise_before hg lines, pairwise_filter_ruleName hg lines, fun i hi e he => mends_of_mem_issues hg hi he,
    hedits, hwithin, applyEdits_of_nodup hnodup, length_applyEdits hnodup hwithin, ?_⟩
  rintro t path rfl
  rw [Linter.lines_fix h, ← applyEdits_eq_mendedLines hg]

/-- A list item, both fences of a block and an underlined heading are all mended at once. -/
theorem issues_separate_of_three :
    let lines := ["- a", "```", "x", "```", "Title", "==="].map String.toList
    let issues := Linter.house.issues (.ofLines lines)
    Linter.ofConfig .builtin [] = .ok .house ∧ issues.Pairwise Issue.Before ∧
      (∃ i ∈ issues, i.ruleName = "list-item-marker-space") ∧ (∃ i ∈ issues, i.ruleName = "fenced-code-fence-length") ∧
      (applyEdits lines (issues.filterMap (·.edit))).length = 7 := by
  intro lines issues
  obtain ⟨hbefore, -, -, -, -, -, hlength, -⟩ := issues_separate Linter.ofConfig_nil lines
  have hinserted : ((issues.filterMap (·.edit)).map (·.inserted.length)).sum = 1 := by
    refine (((List.mergeSort_perm _ _).filterMap _).map _).sum_eq.trans ?_
    decide
  refine ⟨Linter.ofConfig_nil, hbefore, ?_, ?_, ?_⟩
  · exact ⟨dashItemRule.issue ⟨1, "Expected 1 leading space(s), found 0", "- a".toList,
      some (.replace 1 " -  a".toList)⟩, List.mem_mergeSort.2 (by decide), rfl⟩
  · exact ⟨fenceRule.issue ⟨4, "Expected 4 tildes, found 3 backticks", "```".toList,
      some (.replace 4 "~~~~".toList)⟩, List.mem_mergeSort.2 (by decide), rfl⟩
  · rw [hlength, hinserted]
    rfl

end Linter

end MarkdownStyle
