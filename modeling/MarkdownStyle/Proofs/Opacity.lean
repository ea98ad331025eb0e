/-
Fenced code is opaque: what the lines of a code block say has no influence on anything outside
them, as long as none of them closes the block. Two documents that differ in such lines only have
the same sites once the texts of code lines are left out, and every analysis can do without these
texts.
-/
import MarkdownStyle.Proofs.Line.Fence
import MarkdownStyle.Proofs.Linter.Builtin
import MarkdownStyle.Proofs.Reference.Placement
import MarkdownStyle.Proofs.Rule.Site
import MarkdownStyle.Structure.Section

namespace MarkdownStyle

/-! ## Documents that differ in code only -/

/-- The two documents differ only in code lines of the first one, and the lines in their places do
not close the block that is open there. -/
structure SameButCode (lines other : List Text) : Prop where
  length_eq : other.length = lines.length
  same : ∀ i (hi : i < lines.length), other[i] = lines[i] ∨
    ((classify lines)[i]?.map (·.role)) = some .code ∧
      ¬ (FenceState.outside.after (lines.take i)).ClosedByLine other[i]

/-- What two documents need to agree on from a line on. -/
def AgreeFrom (s : LineScan) : List Text → List Text → Prop
  | [], [] => True
  | line :: rest, line' :: rest' =>
    (line' = line ∨ s.role line = .code ∧ ¬ s.fence.ClosedByLine line') ∧ AgreeFrom (s.next line) rest rest'
  | _, _ => False

theorem agreeFrom_of_same (s : LineScan) (number : Nat) {lines other : List Text}
    (hl : other.length = lines.length)
    (h : ∀ i (hi : i < lines.length), other[i] = lines[i] ∨
      ((classifyFrom s number lines)[i]?.map (·.role)) = some .code ∧
        ¬ (s.fence.after (lines.take i)).ClosedByLine other[i]) :
    AgreeFrom s lines other := by
  induction lines generalizing s number other with
  | nil =>
    rw [List.length_nil, List.length_eq_zero_iff] at hl
    rw [hl]
    trivial
  | cons line rest ih =>
    rcases other with _ | ⟨line', rest'⟩
    · cases hl
    refine ⟨?_, ih (s.next line) (number + 1) (by simpa using hl) fun i hi => ?_⟩
    · rcases h 0 (by simp) with h | ⟨hr, hc⟩
      · exact .inl h
      · refine .inr ⟨?_, hc⟩
        rw [classifyFrom_cons] at hr
        simpa [settled_isFenced s (number + 1) line rest .code rfl] using hr
    · exact h (i + 1) (by simpa using hi)

theorem SameButCode.agreeFrom {lines other : List Text} (h : SameButCode lines other) :
    AgreeFrom .start lines other :=
  agreeFrom_of_same .start 1 h.length_eq h.same

/-- A line that neither is a fence nor closes the block leaves the pass where a code line does. -/
theorem next_of_code {s : LineScan} {line line' : Text} (hr : s.role line = .code)
    (hc : ¬ s.fence.ClosedByLine line') : s.role line' = .code ∧ s.next line' = s.next line := by
  obtain ⟨hd, ho⟩ := (s.role_eq_code_iff line).1 hr
  have hd' : (s.fence.step line').2 = false := by
    rw [← Bool.not_eq_true, FenceState.step_of_open ho]
    exact hc
  have hr' := (s.role_eq_code_iff line').2 ⟨hd', ho⟩
  refine ⟨hr', ?_⟩
  unfold LineScan.next
  rw [hr, hr', FenceState.step_of_not_fence hd, FenceState.step_of_not_fence hd']

/-! ## Leaving out the texts of code -/

/-- A line without its text if it is code. -/
def Line.masked (line : Line) : Line := if line.role = .code then { line with text := [] } else line

@[simp] theorem Line.masked_number (line : Line) : line.masked.number = line.number := by
  unfold Line.masked; split <;> rfl

@[simp] theorem Line.masked_role (line : Line) : line.masked.role = line.role := by
  unfold Line.masked; split <;> rfl

theorem Line.masked_of_role {line : Line} (h : line.role ≠ .code) : line.masked = line := if_neg h

def Site.masked (x : Site) : Site := { x with line := x.line.masked }

theorem map_line_masked (xs : List Site) :
    (xs.map Site.masked).map (·.line) = (xs.map (·.line)).map Line.masked := by
  simp [Site.masked]

theorem head_role_masked (doc : List Line) :
    ((doc.map Line.masked).head?.map (·.role) : Option LineRole) = doc.head?.map (·.role) := by
  rcases doc with _ | ⟨line, rest⟩
  · rfl
  · simp

/-- Two documents that agree but for code have the same sites but for the texts of code. -/
theorem masked_sitesFrom {s : LineScan} {lines other : List Text} (h : AgreeFrom s lines other)
    (number : Nat) (blanks : Option Nat) :
    (sitesFrom s.fence blanks (classifyFrom s number other)).map Site.masked =
      (sitesFrom s.fence blanks (classifyFrom s number lines)).map Site.masked := by
  induction lines generalizing s number blanks other with
  | nil =>
    rcases other with _ | ⟨line', rest'⟩
    · rfl
    · cases h
  | cons line rest ih =>
    rcases other with _ | ⟨line', rest'⟩
    · cases h
    obtain ⟨hline, hrest⟩ := h
    have hnext : s.next line' = s.next line ∧ (line' = line ∨ s.role line = .code ∧ s.role line' = .code) := by
      rcases hline with rfl | ⟨hr, hc⟩
      · exact ⟨rfl, .inl rfl⟩
      · obtain ⟨hr', hn⟩ := next_of_code hr hc
        exact ⟨hn, .inr ⟨hr, hr'⟩⟩
    -- the role of the line below settles the role of this one, so what is known below comes first
    have hmask := congrArg (List.map Site.line) (ih hrest (number + 1) none)
    rw [map_line_masked, map_line_masked, map_line_sitesFrom, map_line_sitesFrom] at hmask
    have hhead := congrArg (fun doc => (doc.head?.map (·.role) : Option LineRole)) hmask
    simp only [head_role_masked] at hhead
    rw [sitesFrom_cons, sitesFrom_cons, List.map_cons, List.map_cons, hnext.1]
    have hrole : (s.role line').settled line'
          ((classifyFrom (s.next line) (number + 1) rest').head?.map (·.role)) =
        (s.role line).settled line ((classifyFrom (s.next line) (number + 1) rest).head?.map (·.role)) := by
      rcases hnext.2 with rfl | ⟨hr, hr'⟩
      · rw [hhead]
      · rw [(settled_isFenced s (number + 1) line rest .code rfl).2 hr]
        have := (settled_isFenced s (number + 1) line' rest' .code rfl).2 hr'
        rwa [hnext.1] at this
    rw [hrole, ih hrest]
    congr 1
    rcases hnext.2 with rfl | ⟨hr, -⟩
    · rfl
    · simp [Site.masked, Line.masked, (settled_isFenced s (number + 1) line rest .code rfl).2 hr]

theorem SameButCode.masked_sites {lines other : List Text} (h : SameButCode lines other) :
    (sites other).map Site.masked = (sites lines).map Site.masked :=
  masked_sitesFrom h.agreeFrom 1 none

theorem SameButCode.masked_classify {lines other : List Text} (h : SameButCode lines other) :
    (classify other).map Line.masked = (classify lines).map Line.masked := by
  have hs := congrArg (List.map Site.line) h.masked_sites
  rwa [map_line_masked, map_line_masked, map_line_sites, map_line_sites] at hs

/-! ## Structure without the texts of code -/

theorem headings_masked (doc : List Line) : headings (doc.map Line.masked) = headings doc := by
  unfold headings
  rw [List.filterMap_map]
  congr 1
  funext line
  simp [Heading.ofLine?]

theorem SameButCode.headings_eq {lines other : List Text} (h : SameButCode lines other) :
    headings (classify other) = headings (classify lines) := by
  rw [← headings_masked, h.masked_classify, headings_masked]

theorem blocks_masked (doc : List Line) : blocks (doc.map Line.masked) = blocks doc := by
  unfold blocks
  rw [headings_masked, List.length_map]

theorem slice_masked (doc : List Line) (first last : Int) :
    slice (doc.map Line.masked) first last = (slice doc first last).map Line.masked := by
  unfold slice
  rw [← List.map_take, ← List.map_drop]

theorem usages_masked (doc : List Line) (block : Block) :
    usages (doc.map Line.masked) block = usages doc block := by
  have hline : ∀ line : Line, usagesOn block line.masked = usagesOn block line := by
    intro line
    by_cases hr : line.role = .code
    · simp [usagesOn, hr]
    · rw [Line.masked_of_role hr]
  unfold usages
  rw [slice_masked, List.flatMap_map]
  exact List.flatMap_congr fun line _ => hline line

theorem lastContinuation_masked (number : Nat) (below : List Line) :
    lastContinuation number (below.map Line.masked) = lastContinuation number below := by
  unfold lastContinuation
  rw [List.takeWhile_map]
  simp [Function.comp_def]

theorem definitionsFrom_masked (block : Block) (lines : List Line) :
    definitionsFrom block (lines.map Line.masked) = definitionsFrom block lines := by
  induction lines with
  | nil => rfl
  | cons line rest ih =>
    unfold definitionsFrom
    simp only [List.map_cons, Line.masked_role, Line.masked_number, lastContinuation_masked, ih]

theorem partBounds_masked (first last : Int) (lines : List Line) :
    partBounds first last (lines.map Line.masked) = partBounds first last lines := by
  induction lines generalizing first with
  | nil => rfl
  | cons line rest ih =>
    unfold partBounds
    simp only [List.map_cons, Line.masked_role, Line.masked_number, ih]

theorem lastProse_masked (doc : List Line) (first last : Int) :
    lastProse (doc.map Line.masked) first last = lastProse doc first last := by
  unfold lastProse
  rw [slice_masked, ← List.map_reverse, List.find?_map]
  simp [Function.comp_def]

theorem parts_masked (doc : List Line) (block : Block) :
    parts (doc.map Line.masked) block = parts doc block := by
  have hbreaks : breakLines (doc.map Line.masked) block = (breakLines doc block).map Line.masked := by
    unfold breakLines
    simp only [List.length_map]
    rw [← List.map_take, ← List.map_drop]
  unfold parts
  rw [hbreaks, partBounds_masked]
  simp only [lastProse_masked]

/-- The line of a definition is no code, so its excerpt is the same. -/
theorem excerptAt_masked {doc : List Line} {block : Block} {d : Definition} (hn : Numbered 1 doc)
    (hd : d ∈ definitions doc block) : excerptAt (doc.map Line.masked) d.line = excerptAt doc d.line := by
  obtain ⟨line, hm, -, hr, hl, -⟩ := definition_line hn hd
  unfold excerptAt
  rw [List.getElem?_map, hl, hn.getElem? hm, Option.map_some,
    Line.masked_of_role (by rw [hr]; exact LineRole.noConfusion)]

theorem misplacedDefinitions_masked {doc : List Line} (hn : Numbered 1 doc) (bs : List Block) :
    misplacedDefinitions (doc.map Line.masked) bs = misplacedDefinitions doc bs := by
  have hdefs : ∀ block, definitions (doc.map Line.masked) block = definitions doc block := by
    intro block
    unfold definitions
    rw [slice_masked, definitionsFrom_masked]
  unfold misplacedDefinitions firstUses
  refine List.flatMap_congr fun block _ => ?_
  rw [hdefs, parts_masked, List.flatMap_congr fun block _ => usages_masked doc block]
  refine List.filterMap_congr fun d hd => ?_
  rw [excerptAt_masked hn hd]

/-! ## Rules without the texts of code -/

theorem DashItem.check_masked (style : Style) (x : Site) :
    DashItem.check style x.masked = DashItem.check style x := by
  by_cases hr : x.line.role = .code
  · simp [DashItem.check, DashItem.finding?, Site.masked, hr]
  · simp only [DashItem.check, Site.masked, Line.masked_of_role hr]

theorem FenceStyle.check_masked (length : Int) (x : Site) :
    FenceStyle.check length x.masked = FenceStyle.check length x := by
  by_cases hr : x.line.role = .code
  · simp [FenceStyle.check, Site.masked, hr]
  · simp only [FenceStyle.check, Site.masked, Line.masked_of_role hr]

theorem BlankLine.check_masked (style : Style) (x : Site) :
    BlankLine.check style x.masked = BlankLine.check style x := by
  by_cases hr : x.line.role = .code
  · simp [BlankLine.check, BlankLine.finding?, Site.masked, hr]
  · simp only [BlankLine.check, Site.masked, Line.masked_of_role hr]

theorem SiteCheck.findings_masked {check : SiteCheck} (h : ∀ x, check x.masked = check x) (xs : List Site) :
    check.findings (xs.map Site.masked) = check.findings xs := by
  unfold SiteCheck.findings
  rw [List.mapM_map]
  congr 2
  funext x
  exact h x

/-- Every built-in rule finds the same in documents that differ in code only. -/
theorem SameButCode.check_eq {lines other : List Text} (h : SameButCode lines other) {rule : Rule}
    (hr : rule ∈ Registry.builtin.rules) (o : Options) :
    rule.check (.ofLines other) o = rule.check (.ofLines lines) o := by
  have hfindings : ∀ {check : SiteCheck}, (∀ x, check x.masked = check x) →
      check.findings (sites other) = check.findings (sites lines) := by
    intro check hc
    rw [← SiteCheck.findings_masked hc, h.masked_sites, SiteCheck.findings_masked hc]
  rw [builtin_rules] at hr
  simp only [List.mem_cons, List.not_mem_nil, or_false] at hr
  -- three rules check site by site, the other two look at definitions and at headings
  rcases hr with rfl | rfl | rfl | rfl | rfl
  · rw [dashItemRule_check, dashItemRule_check]
    exact hfindings (DashItem.check_masked _)
  · rw [fenceRule_check, fenceRule_check]
    exact hfindings (FenceStyle.check_masked _)
  · show Except.ok _ = Except.ok _
    simp only [Document.ofLines]
    rw [← misplacedDefinitions_masked (numbered_classify other), ← blocks_masked, h.masked_classify, blocks_masked,
      misplacedDefinitions_masked (numbered_classify lines)]
  · rw [blankLineRule_check, blankLineRule_check]
    exact hfindings (BlankLine.check_masked _)
  · show Except.ok _ = Except.ok _
    simp only [Document.ofLines, h.headings_eq]

theorem SameButCode.issues_eq {lines other : List Text} (h : SameButCode lines other) {l : Linter}
    (hl : l.registry = .builtin) : l.issues (.ofLines other) = l.issues (.ofLines lines) := by
  unfold Linter.issues
  congr 1
  refine List.flatMap_congr fun entry hm => ?_
  obtain ⟨rule, setting⟩ := entry
  have hr : rule ∈ Registry.builtin.rules := hl ▸ (List.of_mem_zip hm).1
  simp only [Linter.issuesOf, Rule.issues, h.check_eq hr]

/-! ## Opacity -/

/-- Documents that differ in code only have the same structure and the same issues. -/
theorem fenced_code_inert {lines other : List Text} (h : SameButCode lines other) :
    (classify other).map (fun x => (x.number, x.role)) = (classify lines).map (fun x => (x.number, x.role)) ∧
      headings (classify other) = headings (classify lines) ∧
      contentBlocks other = contentBlocks lines ∧
      (∀ level, sections other level = sections lines level) ∧
      misplacedDefinitions (classify other) (contentBlocks other) =
        misplacedDefinitions (classify lines) (contentBlocks lines) ∧
      ∀ config l, Linter.ofConfig .builtin config = .ok l → ∀ path,
        l.lintDocument (.ofLines other) path = l.lintDocument (.ofLines lines) path := by
  have hblocks : contentBlocks other = contentBlocks lines := by
    unfold contentBlocks
    rw [← blocks_masked, h.masked_classify, blocks_masked]
  refine ⟨?_, h.headings_eq, hblocks, fun level => ?_, ?_, fun config l hl path => ?_⟩
  · have := congrArg (List.map fun x : Line => (x.number, x.role)) h.masked_classify
    simpa [Function.comp_def] using this
  · unfold sections
    rw [h.headings_eq, h.length_eq]
  · rw [← misplacedDefinitions_masked (numbered_classify other), h.masked_classify, hblocks,
      misplacedDefinitions_masked (numbered_classify lines)]
  · unfold Linter.lintDocument
    rw [h.issues_eq (Linter.ofConfig_eq_ok hl).1]

/-- Nothing closes the block here, though two of the new lines look like a heading and the last
one is a fence run. -/
theorem fenced_code_inert_unterminated :
    let lines := ["~~~", "text", "more", "~~"].map String.toList
    let other := ["~~~", "Title", "=====", "```"].map String.toList
    SameButCode lines other ∧ headings (classify other) = headings (classify lines) := by
  intro lines other
  have h : SameButCode lines other := ⟨rfl, by decide⟩
  exact ⟨h, (fenced_code_inert h).2.1⟩

end MarkdownStyle
