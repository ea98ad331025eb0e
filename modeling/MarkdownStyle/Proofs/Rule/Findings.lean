/-
What the built-in rules find in a document: at most one thing on each line, in the order of the lines,
and only on lines that the document has. Three of the rules offer edits, each for lines of a role of
its own, so that no two of them edit one line.
-/
import MarkdownStyle.Proofs.Fix.Clean
import MarkdownStyle.Proofs.Reference.Placement

namespace MarkdownStyle

/-! ## Edits by role -/

/-- An edit for a line of the role that the rule of an id minds: a list item and a fence are replaced,
and the text of a heading gets blank lines above it. -/
inductive LineEdit.Mends (doc : List Line) : String → LineEdit → Prop
  | item {line : Line} {text : Text} : line ∈ doc → line.role = .text →
    Mends doc "HM001" (.replace line.number text)
  | fence {line : Line} {text : Text} : line ∈ doc → line.role = .fence →
    Mends doc "HM002" (.replace line.number text)
  | heading {line : Line} {count : Nat} : line ∈ doc → line.role.isUnderlined = true → 0 < count →
    Mends doc "HM004" (.insert line.number (List.replicate count []))

/-- The line of an edit has one role, and so one rule that minds it. -/
theorem LineEdit.Mends.id_eq {doc : List Line} (hn : Numbered 1 doc) {id id' : String} {e e' : LineEdit}
    (h : e.Mends doc id) (h' : e'.Mends doc id') (hline : e.line = e'.line) : id = id' := by
  have hsame : ∀ {line line' : Line}, line ∈ doc → line' ∈ doc → (line.number : Int) = line'.number →
      line.role = line'.role := by
    intro line line' hm hm' heq
    rw [hn.eq_of_number hm hm' (by exact_mod_cast heq)]
  cases h with
  | item hm hr =>
    cases h' with
    | item => rfl
    | fence hm' hr' => exact absurd (hr.symm.trans ((hsame hm hm' hline).trans hr')) (by decide)
    | heading hm' hr' => rw [← hsame hm hm' hline, hr] at hr'; cases hr'
  | fence hm hr =>
    cases h' with
    | item hm' hr' => exact absurd (hr.symm.trans ((hsame hm hm' hline).trans hr')) (by decide)
    | fence => rfl
    | heading hm' hr' => rw [← hsame hm hm' hline, hr] at hr'; cases hr'
  | heading hm hr =>
    cases h' with
    | item hm' hr' => rw [hsame hm hm' hline, hr'] at hr; cases hr
    | fence hm' hr' => rw [hsame hm hm' hline, hr'] at hr; cases hr
    | heading => rfl

/-! ## Findings of sites -/

theorem line_mem_classify {lines : List Text} {x : Site} (hx : x ∈ sites lines) : x.line ∈ classify lines := by
  rw [← map_line_sites]
  exact List.mem_map_of_mem hx

namespace SiteCheck

variable {check : SiteCheck}

theorem findings_cons_eq_ok {x : Site} {xs : List Site} {found : List Finding}
    (h : check.findings (x :: xs) = .ok found) :
    ∃ one more, check x = .ok one ∧ check.findings xs = .ok more ∧ found = one.toList ++ more := by
  rw [findings_cons] at h
  cases hx : check x with
  | error failure => rw [hx] at h; cases h
  | ok one =>
    cases hs : check.findings xs with
    | error failure => rw [hx, hs] at h; cases h
    | ok more =>
      rw [hx, hs] at h
      cases h
      exact ⟨one, more, rfl, rfl, rfl⟩

theorem mem_findings : ∀ {xs : List Site} {found : List Finding}, check.findings xs = .ok found →
    ∀ f ∈ found, ∃ x ∈ xs, check x = .ok (some f)
  | [], found, h, f, hf => by
    rw [findings_nil] at h
    cases h
    cases hf
  | x :: xs, found, h, f, hf => by
    obtain ⟨one, more, hx, hs, rfl⟩ := findings_cons_eq_ok h
    rcases List.mem_append.1 hf with hf | hf
    · rw [Option.mem_toList.1 hf] at hx
      exact ⟨x, List.mem_cons_self .., hx⟩
    · obtain ⟨y, hy, hcheck⟩ := mem_findings hs f hf
      exact ⟨y, List.mem_cons_of_mem _ hy, hcheck⟩

/-- Findings on the lines of their sites are in the order of the sites. -/
theorem sublist_findings (hline : ∀ x f, check x = .ok (some f) → f.line = x.line.number) :
    ∀ {xs : List Site} {found : List Finding}, check.findings xs = .ok found →
      (found.map (·.line)).Sublist (xs.map fun x => (x.line.number : Int))
  | [], found, h => by
    rw [findings_nil] at h
    cases h
    exact .slnil
  | x :: xs, found, h => by
    obtain ⟨one, more, hx, hs, rfl⟩ := findings_cons_eq_ok h
    have ih := sublist_findings hline hs
    cases one with
    | none => exact ih.cons _
    | some f =>
      rw [List.map_cons, ← hline x f hx]
      exact ih.cons_cons _

theorem pairwise_findings (hline : ∀ x f, check x = .ok (some f) → f.line = x.line.number) {lines : List Text}
    {found : List Finding} (h : check.findings (sites lines) = .ok found) :
    found.Pairwise fun f g => f.line < g.line := by
  have hnumbers : ((sites lines).map fun x => (x.line.number : Int)).Pairwise (· < ·) := by
    have hrange := List.pairwise_lt_range' (s := 1) (n := lines.length)
    rw [← map_number_sites, List.pairwise_map] at hrange
    rw [List.pairwise_map]
    exact hrange.imp fun hlt => by exact_mod_cast hlt
  exact List.pairwise_map.1 (hnumbers.sublist (sublist_findings hline h))

end SiteCheck

/-! ## The form of findings -/

theorem DashItem.check_finding {style : Style} {x : Site} {f : Finding} (h : DashItem.check style x = .ok (some f)) :
    ∃ item detail indent edit, fault? style item = .ok (some (detail, indent)) ∧
      f = x.line.finding detail (some edit) := by
  unfold DashItem.check finding? at h
  split at h
  · rename_i item _ _
    split at h
    · cases hfault : fault? style item with
      | error failure => rw [hfault] at h; cases h
      | ok fault =>
        rw [hfault] at h
        rcases fault with _ | ⟨detail, indent⟩
        · cases h
        · cases hlayout : layout style indent item.content with
          | error failure => simp only [bind, Except.bind, hlayout] at h; cases h
          | ok text =>
            simp only [bind, Except.bind, hlayout, pure, Except.pure] at h
            cases h
            exact ⟨item, detail, indent, _, hfault, rfl⟩
    · cases h
  · cases h

theorem FenceStyle.check_finding {length : Int} {x : Site} {f : Finding}
    (h : FenceStyle.check length x = .ok (some f)) :
    ∃ run detail edit, fault? length run = some detail ∧ f = x.line.finding detail (some edit) := by
  unfold FenceStyle.check finding? at h
  split at h
  · split at h
    · cases h
    · rename_i run _
      split at h
      · cases h
      · rename_i detail hfault
        cases hcopies : copiesOf tilde length with
        | error failure => rw [hcopies] at h; cases h
        | ok fence =>
          rw [hcopies] at h
          cases h
          exact ⟨run, detail, _, hfault, rfl⟩
  · cases h

theorem BlankLine.check_finding {style : Style} {x : Site} {f : Finding}
    (h : BlankLine.check style x = .ok (some f)) :
    ∃ demand edit, f = x.line.finding ("Expected " ++ demand) (some edit) := by
  unfold BlankLine.check finding? at h
  split at h
  · cases h
  · rename_i count _
    split at h
    · rename_i level _ _
      simp only at h
      split at h
      · unfold copyCount at h
        split at h
        · cases h
          refine ⟨toString (style.required level) ++ " blank line(s) before h" ++ toString level ++ ", found " ++
            toString count, .insert x.line.number (List.replicate (style.required level - count).toNat []), ?_⟩
          simp only [String.append_assoc]
        · cases h
      · cases h
    · cases h

theorem DashItem.check_line {style : Style} {x : Site} {f : Finding} (h : DashItem.check style x = .ok (some f)) :
    f.line = x.line.number := by
  obtain ⟨_, _, _, _, -, rfl⟩ := check_finding h
  rfl

theorem FenceStyle.check_line {length : Int} {x : Site} {f : Finding}
    (h : FenceStyle.check length x = .ok (some f)) : f.line = x.line.number := by
  obtain ⟨_, _, _, -, rfl⟩ := check_finding h
  rfl

theorem BlankLine.check_line {style : Style} {x : Site} {f : Finding} (h : BlankLine.check style x = .ok (some f)) :
    f.line = x.line.number := by
  obtain ⟨_, _, rfl⟩ := check_finding h
  rfl

theorem SentenceCase.line_of_finding? {allowed : List Text} {ignore : Bool} {h : Heading} {f : Finding}
    (hf : finding? allowed ignore h = some f) : f.line = h.line := by
  unfold finding? at hf
  split at hf
  · cases hf
  · cases hf
    rfl

/-! ## Findings of rules -/

/-- What a built-in rule finds: something at a site, a misplaced definition or something about a
heading. -/
inductive Rule.Finds (lines : List Text) : Rule → Finding → Prop
  | item {style : DashItem.Style} {x : Site} {f : Finding} :
    x ∈ sites lines → DashItem.check style x = .ok (some f) → Finds lines dashItemRule f
  | fence {length : Int} {x : Site} {f : Finding} :
    x ∈ sites lines → FenceStyle.check length x = .ok (some f) → Finds lines fenceRule f
  | place {m : Misplaced} :
    m ∈ misplacedDefinitions (classify lines) (contentBlocks lines) → Finds lines definitionPlaceRule m.finding
  | blank {style : BlankLine.Style} {x : Site} {f : Finding} :
    x ∈ sites lines → BlankLine.check style x = .ok (some f) → Finds lines blankLineRule f
  | heading {allowed : List Text} {ignore : Bool} {h : Heading} {f : Finding} :
    h ∈ headings (classify lines) → SentenceCase.finding? allowed ignore h = some f → Finds lines sentenceCaseRule f

section

variable {lines : List Text} {o : Options} {found : List Finding} {rule : Rule} {f : Finding}

theorem finds_of_check (hr : rule ∈ Registry.builtin.rules) (h : rule.check (.ofLines lines) o = .ok found)
    (hf : f ∈ found) : rule.Finds lines f := by
  rw [builtin_rules] at hr
  simp only [List.mem_cons, List.not_mem_nil, or_false] at hr
  rcases hr with rfl | rfl | rfl | rfl | rfl
  · rw [dashItemRule_check] at h
    obtain ⟨x, hx, hcheck⟩ := SiteCheck.mem_findings h f hf
    exact .item hx hcheck
  · rw [fenceRule_check] at h
    obtain ⟨x, hx, hcheck⟩ := SiteCheck.mem_findings h f hf
    exact .fence hx hcheck
  · cases h
    obtain ⟨m, hm, rfl⟩ := List.mem_map.1 hf
    exact .place hm
  · rw [blankLineRule_check] at h
    obtain ⟨x, hx, hcheck⟩ := SiteCheck.mem_findings h f hf
    exact .blank hx hcheck
  · cases h
    obtain ⟨heading, hheading, hf⟩ := List.mem_filterMap.1 hf
    exact .heading hheading hf

/-- No built-in rule finds two things on a line. -/
theorem pairwise_check (hr : rule ∈ Registry.builtin.rules) (h : rule.check (.ofLines lines) o = .ok found) :
    found.Pairwise fun f g => f.line < g.line := by
  rw [builtin_rules] at hr
  simp only [List.mem_cons, List.not_mem_nil, or_false] at hr
  rcases hr with rfl | rfl | rfl | rfl | rfl
  · rw [dashItemRule_check] at h
    exact SiteCheck.pairwise_findings (fun _ _ => DashItem.check_line) h
  · rw [fenceRule_check] at h
    exact SiteCheck.pairwise_findings (fun _ _ => FenceStyle.check_line) h
  · cases h
    rw [List.pairwise_map]
    exact (pairwise_misplacedDefinitions (numbered_classify lines) (blocks_fit lines)).imp fun hlt =>
      Int.ofNat_lt.2 hlt
  · rw [blankLineRule_check] at h
    exact SiteCheck.pairwise_findings (fun _ _ => BlankLine.check_line) h
  · cases h
    have hfit := headings_classify_fit lines
    refine List.Pairwise.filterMap _ ?_ (List.Pairwise.and_mem.1 hfit.ordered)
    rintro a b ⟨ha, -, hab⟩ f hf g hg
    have := (hfit.within a ha).2.1
    rw [SentenceCase.line_of_finding? hf, SentenceCase.line_of_finding? hg]
    omega

/-- Nothing is found outside the document. -/
theorem Rule.Finds.exists_line (h : rule.Finds lines f) : ∃ line ∈ classify lines, f.line = line.number := by
  cases h with
  | item hx hcheck => exact ⟨_, line_mem_classify hx, DashItem.check_line hcheck⟩
  | fence hx hcheck => exact ⟨_, line_mem_classify hx, FenceStyle.check_line hcheck⟩
  | place hm =>
    obtain ⟨block, -, d, hd, kind, -, rfl⟩ := mem_misplacedDefinitions.1 hm
    obtain ⟨line, hline, -, -, hnumber, -⟩ := definition_line (numbered_classify lines) hd
    exact ⟨line, hline, by rw [Misplaced.finding, hnumber]⟩
  | blank hx hcheck => exact ⟨_, line_mem_classify hx, BlankLine.check_line hcheck⟩
  | heading hh hf =>
    obtain ⟨line, hline, hof⟩ := List.mem_filterMap.1 hh
    refine ⟨line, hline, ?_⟩
    rw [SentenceCase.line_of_finding? hf, (Heading.ofLine?_eq_some hof).2.1]

/-- The edit of a finding is one of its line, and mends what its rule minds. -/
theorem Rule.Finds.mends (h : rule.Finds lines f) {e : LineEdit} (he : f.edit = some e) :
    e.line = f.line ∧ e.Mends (classify lines) rule.id := by
  cases h with
  | item hx hcheck =>
    obtain ⟨item, detail, indent, hrole, -, -, -, hedit⟩ := DashItem.check_eq_some hcheck
    cases hedit.symm.trans he
    exact ⟨(DashItem.check_line hcheck).symm, .item (line_mem_classify hx) hrole⟩
  | fence hx hcheck =>
    obtain ⟨run, detail, hrole, -, -, hedit⟩ := FenceStyle.check_eq_some hcheck
    cases hedit.symm.trans he
    exact ⟨(FenceStyle.check_line hcheck).symm, .fence (line_mem_classify hx) hrole⟩
  | place hm => cases he
  | blank hx hcheck =>
    obtain ⟨count, level, heading, -, hrole, hlt, hedit⟩ := BlankLine.check_eq_some hcheck
    cases hedit.symm.trans he
    exact ⟨(BlankLine.check_line hcheck).symm,
      .heading (line_mem_classify hx) (by rw [hrole]; rfl) (by omega)⟩
  | heading hh hf =>
    unfold SentenceCase.finding? at hf
    split at hf
    · cases hf
    · cases hf
      cases he

end

/-! ## The words of findings -/

/-- A text whose second letter is another one does not tell of a failure. -/
theorem ne_failure {s : String} (h : s.toList[1]? ≠ some 'u') (message : String) :
    s ≠ "Rule check failed: " ++ message := by
  rintro rfl
  refine h ?_
  rw [String.toList_append]
  rfl

theorem DashItem.detail_of_fault? {style : Style} {item : ListItem} {detail : String} {indent : Int}
    (h : fault? style item = .ok (some (detail, indent))) : detail.toList[1]? ≠ some 'u' := by
  unfold fault? fault?.wrongIndent at h
  split at h
  · cases h
    simp
  · split at h
    · cases h
    · split at h
      · cases h
        simp
      · split at h
        · cases h
          simp
        · cases h

theorem FenceStyle.detail_of_fault? {length : Int} {run : FenceLine} {detail : String}
    (h : fault? length run = some detail) : detail.toList[1]? ≠ some 'u' := by
  unfold fault? at h
  simp only at h
  split at h
  · split at h
    · cases h
      simp
    · cases h
      decide
  · split at h
    · cases h
      simp
    · cases h

/-- What a rule finds is not to be confused with its failure. -/
theorem Rule.Finds.detail_ne {lines : List Text} {rule : Rule} {f : Finding} (h : rule.Finds lines f)
    (message : String) : f.detail ≠ "Rule check failed: " ++ message := by
  refine ne_failure ?_ message
  cases h with
  | item _ hcheck =>
    obtain ⟨item, detail, indent, edit, hfault, rfl⟩ := DashItem.check_finding hcheck
    exact DashItem.detail_of_fault? hfault
  | fence _ hcheck =>
    obtain ⟨run, detail, edit, hfault, rfl⟩ := FenceStyle.check_finding hcheck
    exact FenceStyle.detail_of_fault? hfault
  | place _ =>
    unfold Misplaced.finding Misplaced.detail
    simp
  | blank _ hcheck =>
    obtain ⟨demand, edit, rfl⟩ := BlankLine.check_finding hcheck
    unfold Line.finding
    simp
  | heading _ hf =>
    unfold SentenceCase.finding? at hf
    split at hf
    · cases hf
    · cases hf
      simp

end MarkdownStyle
