/-
Sections tile a document: read one after the other, their lines are the lines of the document, and
each of them but a leading one begins at its heading and holds no other heading of its level or above.
Sections at a deeper level tile each section at a higher one. Where no heading is too deep to open a
section, the sections without their headings are the content blocks.
-/
import MarkdownStyle.Proofs.Line.Form
import MarkdownStyle.Proofs.Structure.Partition
import MarkdownStyle.Structure.Section

namespace MarkdownStyle

/-! ## The specification -/

/-- The numbers of the lines of a section. -/
def Section.lineNumbers (s : Section) : List Nat := List.range' s.first (s.last + 1 - s.first)

/-- The headings that open the sections at a level. -/
def openings (lines : List Text) (level : Int) : List Heading :=
  (headings (classify lines)).filter fun h => (h.level : Int) ≤ level

/-- A heading opens a section as the only one of some headings that the section holds. -/
structure Heading.Opens (hs : List Heading) (h : Heading) (s : Section) : Prop where
  mem : h ∈ hs
  eq_sectionTo : s = h.sectionTo s.last
  unique : ∀ g ∈ hs, s.first ≤ g.line → g.line ≤ s.last → g = h

/-- Sections that divide up a document at its headings of at most a level. -/
structure Sectioned (lines : List Text) (level : Int) (ss : List Section) : Prop where
  none : lines = [] → ss = []
  nonempty : ∀ s ∈ ss, s.first ≤ s.last
  consecutive : ss.IsChain fun s t => t.first = s.last + 1
  cover : ss.flatMap Section.lineNumbers = List.range' 1 lines.length
  /-- What stands before all openings has level zero, and nothing else has. -/
  leading : ∀ s ∈ ss, s.level = 0 → ss.head? = some s ∧ ∀ h ∈ openings lines level, s.last < h.line
  opened : ∀ s ∈ ss, s.level ≠ 0 → ∃ h : Heading, h.Opens (openings lines level) s

/-- The first list of sections is made of the second: each section has the lines of a run of
consecutive ones, and the runs use up the list in order. -/
inductive Regroups : List Section → List Section → Prop
  | nil : Regroups [] []
  | cons {s : Section} {coarse run fine : List Section} :
    s.lineNumbers = run.flatMap Section.lineNumbers → Regroups coarse fine →
      Regroups (s :: coarse) (run ++ fine)

/-- The lines of a section below its heading; a leading section has no heading. -/
def Section.body (s : Section) : Block :=
  if s.level = 0 then ⟨s.first, s.last⟩ else ⟨s.first + (if s.isUnderlined then 2 else 1), s.last⟩

/-! ## Sections from one heading to the next -/

theorem lineNumbers_sectionTo (h : Heading) (last : Nat) :
    (h.sectionTo last).lineNumbers = List.range' h.line (last + 1 - h.line) := rfl

section

variable {first last : Nat} {h : Heading} {rest : List Heading}

theorem head?_sectionsFrom : (sectionsFrom h last rest).head?.map (·.first) = some h.line := by
  cases rest <;> rfl

theorem sectionsFrom_nonempty (hf : HeadingsFit first last (h :: rest)) :
    ∀ s ∈ sectionsFrom h last rest, s.first ≤ s.last := by
  induction rest generalizing h first with
  | nil =>
    intro s hs
    have := hf.within h (List.mem_cons_self ..)
    rw [List.mem_singleton.1 hs]
    simp only [Heading.sectionTo]
    omega
  | cons next rest ih =>
    rintro s (_ | ⟨_, hs⟩)
    · have := hf.line_lt (List.mem_cons_self ..)
      simp only [Heading.sectionTo]
      omega
    · exact ih hf.below s hs

theorem sectionsFrom_consecutive (hf : HeadingsFit first last (h :: rest)) :
    (sectionsFrom h last rest).IsChain fun s t => t.first = s.last + 1 := by
  induction rest generalizing h first with
  | nil => exact .singleton _
  | cons next rest ih =>
    have := hf.line_lt (List.mem_cons_self ..)
    rw [sectionsFrom, List.isChain_cons]
    refine ⟨fun t ht => ?_, ih hf.below⟩
    have hnext : (sectionsFrom next last rest).head?.map (·.first) = some next.line := head?_sectionsFrom
    rw [Option.mem_def.1 ht, Option.map_some, Option.some.injEq] at hnext
    simp only [Heading.sectionTo]
    omega

theorem sectionsFrom_cover (hf : HeadingsFit first last (h :: rest)) :
    (sectionsFrom h last rest).flatMap Section.lineNumbers = List.range' h.line (last + 1 - h.line) := by
  induction rest generalizing h first with
  | nil => simp [sectionsFrom, lineNumbers_sectionTo]
  | cons next rest ih =>
    have := hf.line_lt (List.mem_cons_self ..)
    have := hf.below.within next (List.mem_cons_self ..)
    rw [sectionsFrom, List.flatMap_cons, ih hf.below, lineNumbers_sectionTo]
    have hnext : next.line = h.line + (next.line - 1 + 1 - h.line) := by omega
    have hsum : last + 1 - h.line = (next.line - 1 + 1 - h.line) + (last + 1 - next.line) := by omega
    rw [hsum, ← List.range'_append_1, ← hnext]

/-- Every section is opened by one of the headings and holds no other. -/
theorem sectionsFrom_opened (hf : HeadingsFit first last (h :: rest)) :
    ∀ s ∈ sectionsFrom h last rest, ∃ g : Heading, g.Opens (h :: rest) s := by
  induction rest generalizing h first with
  | nil =>
    intro s hs
    rw [List.mem_singleton.1 hs]
    exact ⟨h, by simp, rfl, by simp⟩
  | cons next rest ih =>
    have hnext := hf.line_lt (List.mem_cons_self ..)
    rintro s (_ | ⟨_, hs⟩)
    · refine ⟨h, by simp, rfl, fun g hg _ hlast => ?_⟩
      rcases List.mem_cons.1 hg with rfl | hg
      · rfl
      · -- the other headings stand below the end of the section
        have := hf.below.line_le hg
        simp only [Heading.sectionTo] at hlast
        omega
    · obtain ⟨g, hmem, heq, hunique⟩ := ih hf.below s hs
      refine ⟨g, List.mem_cons_of_mem _ hmem, heq, fun g' hg' hfirst hlast => ?_⟩
      rcases List.mem_cons.1 hg' with rfl | hg'
      · have := hf.below.line_le hmem
        rw [heq] at hfirst
        simp only [Heading.sectionTo] at hfirst
        omega
      · exact hunique g' hg' hfirst hlast

/-- Only the first section starts where the sections start. -/
theorem head?_of_first_eq (hf : HeadingsFit first last (h :: rest)) {s : Section}
    (hs : s ∈ sectionsFrom h last rest) (hfirst : s.first = h.line) :
    (sectionsFrom h last rest).head? = some s := by
  cases rest with
  | nil => rw [List.mem_singleton.1 hs]; rfl
  | cons next rest =>
    rcases List.mem_cons.1 hs with rfl | hs
    · rfl
    · obtain ⟨g, hmem, heq, -⟩ := sectionsFrom_opened hf.below s hs
      have := hf.line_lt hmem
      rw [heq] at hfirst
      simp only [Heading.sectionTo] at hfirst
      omega

/-- A run of sections down to a heading, closed with the section of that heading. -/
theorem flatMap_lineNumbers_concat {run : List Section} {top : Nat} (bottom : Nat) (hle : top ≤ h.line)
    (hbottom : h.line ≤ bottom + 1) (hrun : run.flatMap Section.lineNumbers = List.range' top (h.line - top)) :
    (run ++ [h.sectionTo bottom]).flatMap Section.lineNumbers = List.range' top (bottom + 1 - top) := by
  have hline : h.line = top + (h.line - top) := by omega
  have hsum : bottom + 1 - top = (h.line - top) + (bottom + 1 - h.line) := by omega
  rw [List.flatMap_append, hrun, List.flatMap_singleton, lineNumbers_sectionTo, hsum, ← List.range'_append_1,
    ← hline]

/-- Fewer headings open fewer sections, made of those that more headings open. The induction carries
along the run of a section that is still to be closed, from the line where that section starts. -/
theorem sectionsFrom_regroups (p : Heading → Bool) {run : List Section} {g : Heading}
    (hf : HeadingsFit first last (h :: rest)) (hle : g.line ≤ h.line)
    (hrun : run.flatMap Section.lineNumbers = List.range' g.line (h.line - g.line)) :
    Regroups (sectionsFrom g last (rest.filter p)) (run ++ sectionsFrom h last rest) := by
  induction rest generalizing h g first run with
  | nil =>
    have := hf.within h (List.mem_cons_self ..)
    have hclosed := flatMap_lineNumbers_concat last hle (by omega) hrun
    have hone : Regroups [g.sectionTo last] ((run ++ [h.sectionTo last]) ++ []) := .cons hclosed.symm .nil
    rwa [List.append_nil] at hone
  | cons next rest ih =>
    have hnext := hf.line_lt (List.mem_cons_self ..)
    have hline : next.line - 1 + 1 = next.line := by omega
    have hclosed := flatMap_lineNumbers_concat (next.line - 1) hle (by omega) hrun
    rw [sectionsFrom, List.append_cons]
    by_cases hp : p next = true
    · -- the run is complete, and the next section starts with an empty one
      rw [List.filter_cons_of_pos hp, sectionsFrom]
      have hempty : ([] : List Section).flatMap Section.lineNumbers =
          List.range' next.line (next.line - next.line) := by
        rw [Nat.sub_self]
        rfl
      exact .cons hclosed.symm (ih hf.below le_rfl hempty)
    · rw [List.filter_cons_of_neg hp]
      exact ih hf.below (by omega) (by rw [hclosed, hline])

theorem body_sectionTo (h : Heading) (last : Nat) :
    (h.sectionTo last).body = ⟨((if h.level = 0 then h.line else h.lastLine + 1 : Nat) : Int), last⟩ := by
  unfold Section.body Heading.sectionTo Heading.lastLine
  by_cases hl : h.level = 0
  · simp [hl]
  · cases hu : h.isUnderlined <;> simp [hl, add_assoc]

/-- Where every heading opens a section, the sections without their headings are blocks. -/
theorem map_body_sectionsFrom (hf : HeadingsFit first last (h :: rest)) (hpos : 1 ≤ h.line)
    (hlevel : ∀ g ∈ rest, g.level ≠ 0) :
    (sectionsFrom h last rest).map Section.body =
      blocksFrom (if h.level = 0 then h.line else h.lastLine + 1) last rest := by
  induction rest generalizing h first with
  | nil => rw [sectionsFrom, List.map_singleton, body_sectionTo, blocksFrom]
  | cons next rest ih =>
    have hnext := hf.line_lt (List.mem_cons_self ..)
    obtain ⟨hopens, hlevel⟩ := List.forall_mem_cons.1 hlevel
    have hline : 1 < next.line := by omega
    have hlast : ((next.line - 1 : Nat) : Int) = (next.line : Int) - 1 := by omega
    rw [sectionsFrom, List.map_cons, body_sectionTo, ih hf.below (by omega) hlevel, if_neg hopens, blocksFrom,
      if_pos hline, hlast]

end

/-! ## Documents -/

theorem level_of_mem_headings {lines : List Text} {h : Heading} (hm : h ∈ headings (classify lines)) :
    1 ≤ h.level ∧ h.level ≤ 6 := by
  obtain ⟨line, hline, hl⟩ := List.mem_filterMap.1 hm
  obtain ⟨i, hi⟩ := List.mem_iff_getElem?.1 hline
  have hsound := (line_sound (getElem?_classify_eq_some.1 hi).2.2).level
  unfold Heading.ofLine? at hl
  split at hl
  · rename_i hrole
    cases hl
    simpa [hrole] using hsound
  · cases hl

theorem level_ne_zero_of_mem_headings {lines : List Text} {h : Heading} (hm : h ∈ headings (classify lines)) :
    h.level ≠ 0 :=
  Nat.one_le_iff_ne_zero.1 (level_of_mem_headings hm).1

/-- The top of a document, read as a heading of level zero. -/
def Heading.top : Heading := ⟨1, 0, [], false⟩

/-- What opens the section on the first line: a heading there, or else the top of the document. -/
def topOpening (hs : List Heading) : Heading := (hs.find? (·.line == 1)).getD .top

section

variable {last : Nat} {hs : List Heading}

/-- Headings in order start with one on the first line, or leave that line to the top. -/
theorem topOpening_cases (hf : HeadingsFit 1 last hs) :
    (∃ h rest, hs = h :: rest ∧ h.line = 1 ∧ topOpening hs = h ∧ hs.filter (1 < ·.line) = rest) ∨
      topOpening hs = .top ∧ hs.filter (1 < ·.line) = hs := by
  cases hs with
  | nil => exact .inr ⟨rfl, rfl⟩
  | cons h rest =>
    have hfirst := (hf.within h (List.mem_cons_self ..)).1
    have hrest : rest.filter (1 < ·.line) = rest := by
      rw [List.filter_eq_self]
      intro g hg
      have := hf.line_lt hg
      rw [decide_eq_true_eq]
      omega
    by_cases h1 : h.line = 1
    · refine .inl ⟨h, rest, rfl, h1, by simp [topOpening, h1], ?_⟩
      rw [List.filter_cons_of_neg (by simp [h1]), hrest]
    · have hnone : (h :: rest).find? (·.line == 1) = none := by
        rw [List.find?_eq_none]
        intro g hg
        have := hf.line_le hg
        rw [beq_iff_eq]
        omega
      refine .inr ⟨by rw [topOpening, hnone, Option.getD_none], ?_⟩
      rw [List.filter_cons_of_pos (by rw [decide_eq_true_eq]; omega), hrest]

theorem topOpening_mem (h : (topOpening hs).level ≠ 0) : topOpening hs ∈ hs := by
  unfold topOpening at h ⊢
  cases hf : hs.find? (·.line == 1) with
  | none =>
    rw [hf] at h
    exact absurd rfl h
  | some g => exact List.mem_of_find?_eq_some hf

theorem mem_topOpening_cons (hf : HeadingsFit 1 last hs) {g : Heading} :
    g ∈ topOpening hs :: hs.filter (1 < ·.line) ↔ g ∈ hs ∨ g = topOpening hs := by
  rcases topOpening_cases hf with ⟨h, rest, rfl, -, htop, hrest⟩ | ⟨-, hall⟩
  · rw [htop, hrest, List.mem_cons]
    constructor
    · exact .inl
    · rintro (hg | rfl)
      · exact hg
      · exact .inl rfl
  · rw [hall, List.mem_cons, or_comm]

theorem topOpening_line (hf : HeadingsFit 1 last hs) : (topOpening hs).line = 1 := by
  rcases topOpening_cases hf with ⟨h, rest, -, hline, htop, -⟩ | ⟨htop, -⟩
  · rw [htop, hline]
  · rw [htop]
    rfl

theorem topOpening_fit (hlast : 1 ≤ last) (hf : HeadingsFit 1 last hs) :
    HeadingsFit 1 last (topOpening hs :: hs.filter (1 < ·.line)) := by
  rcases topOpening_cases hf with ⟨h, rest, rfl, -, htop, hrest⟩ | ⟨htop, hall⟩
  · rwa [htop, hrest]
  · rw [htop]
    constructor
    · refine List.pairwise_cons.2 ⟨fun g hg => ?_, hf.ordered.filter _⟩
      have := List.of_mem_filter hg
      rwa [decide_eq_true_eq] at this
    · rw [hall]
      rintro g (_ | ⟨_, hg⟩)
      · exact ⟨le_rfl, le_rfl, hlast⟩
      · exact hf.within g hg

end

section

variable {lines : List Text} {level : Int}

theorem openings_fit (lines : List Text) (level : Int) : HeadingsFit 1 lines.length (openings lines level) :=
  (headings_classify_fit lines).filter _

theorem sections_nil (level : Int) : sections [] level = [] := rfl

theorem sections_of_openings_nil (ho : openings lines level = []) :
    sections lines level = leadingSection lines.length := by
  unfold openings at ho
  rw [sections, ho]

theorem sections_of_openings_cons {h : Heading} {rest : List Heading} (ho : openings lines level = h :: rest) :
    sections lines level = leadingSection (h.line - 1) ++ sectionsFrom h lines.length rest := by
  unfold openings at ho
  rw [sections, ho]

theorem sections_eq (hne : lines ≠ []) (level : Int) :
    sections lines level = sectionsFrom (topOpening (openings lines level)) lines.length
      ((openings lines level).filter (1 < ·.line)) := by
  rcases topOpening_cases (openings_fit lines level) with ⟨h, rest, ho, hline, htop, hrest⟩ | ⟨htop, hall⟩
  · -- a heading on the first line has nothing in front
    rw [sections_of_openings_cons ho, htop, hrest]
    simp only [hline, leadingSection, Nat.sub_self, ↓reduceIte, List.nil_append]
  · rw [htop, hall]
    cases ho : openings lines level with
    | nil =>
      have hlast : lines.length ≠ 0 := by simpa using hne
      rw [sections_of_openings_nil ho, leadingSection, if_neg hlast]
      rfl
    | cons h rest =>
      have hline : 1 < h.line := by simpa using List.filter_eq_self.1 hall h (ho ▸ List.mem_cons_self ..)
      have hfront : h.line - 1 ≠ 0 := by omega
      rw [sections_of_openings_cons ho, leadingSection, if_neg hfront]
      rfl

theorem openings_eq_filter {finer : Int} (hle : level ≤ finer) :
    openings lines level = (openings lines finer).filter fun h => (h.level : Int) ≤ level := by
  unfold openings
  rw [List.filter_filter]
  apply List.filter_congr
  intro h _
  rw [← Bool.decide_and, decide_eq_decide]
  constructor
  · intro h
    exact ⟨h, h.trans hle⟩
  · exact And.left

/-- A section without a heading stands on top, and all openings below it. -/
theorem leading_of_level_eq_zero (hne : lines ≠ []) {s : Section} (hs : s ∈ sections lines level)
    (hzero : s.level = 0) :
    (sections lines level).head? = some s ∧ ∀ h ∈ openings lines level, s.last < h.line := by
  have hopen := openings_fit lines level
  have hf := topOpening_fit (List.length_pos_iff.2 hne) hopen
  have hline := topOpening_line hopen
  have hlevel : ∀ h ∈ openings lines level, h.level ≠ 0 := fun h hm =>
    level_ne_zero_of_mem_headings (List.mem_of_mem_filter hm)
  rw [sections_eq hne] at hs ⊢
  obtain ⟨g, hmem, heq, hunique⟩ := sectionsFrom_opened hf s hs
  have hg : g.level = 0 := by rw [← hzero, heq]; rfl
  have htop : g = topOpening (openings lines level) :=
    ((mem_topOpening_cons hopen).1 hmem).resolve_left fun h => hlevel g h hg
  have hfirst : s.first = 1 := by rw [heq, ← hline, ← htop]; rfl
  refine ⟨head?_of_first_eq hf hs (hfirst.trans hline.symm), fun h hm => ?_⟩
  by_contra hinside
  have hwithin := (hopen.within h hm).1
  have hsame := hunique h ((mem_topOpening_cons hopen).2 (.inl hm)) (by omega) (by omega)
  exact hlevel h hm (hsame ▸ hg)

theorem exists_opens_of_level_ne_zero (hne : lines ≠ []) {s : Section} (hs : s ∈ sections lines level)
    (hlevel : s.level ≠ 0) : ∃ h : Heading, h.Opens (openings lines level) s := by
  have hopen := openings_fit lines level
  rw [sections_eq hne] at hs
  obtain ⟨g, hmem, heq, hunique⟩ := sectionsFrom_opened (topOpening_fit (List.length_pos_iff.2 hne) hopen) s hs
  have hg : g.level ≠ 0 := by rw [heq] at hlevel; exact hlevel
  refine ⟨g, ?_, heq, fun g' hg' => hunique g' ((mem_topOpening_cons hopen).2 (.inl hg'))⟩
  rcases (mem_topOpening_cons hopen).1 hmem with hm | rfl
  · exact hm
  · exact topOpening_mem hg

theorem sections_sectioned (lines : List Text) (level : Int) : Sectioned lines level (sections lines level) := by
  rcases eq_or_ne lines [] with rfl | hne
  · exact ⟨fun _ => rfl, by simp [sections_nil], .nil, rfl, by simp [sections_nil], by simp [sections_nil]⟩
  have hopen := openings_fit lines level
  have hf := topOpening_fit (List.length_pos_iff.2 hne) hopen
  refine ⟨fun h => absurd h hne, ?_, ?_, ?_, fun s hs => leading_of_level_eq_zero hne hs,
    fun s hs => exists_opens_of_level_ne_zero hne hs⟩
  · rw [sections_eq hne]
    exact sectionsFrom_nonempty hf
  · rw [sections_eq hne]
    exact sectionsFrom_consecutive hf
  · rw [sections_eq hne, sectionsFrom_cover hf, topOpening_line hopen, Nat.add_sub_cancel]

theorem sections_regroups {finer : Int} (hle : level ≤ finer) :
    Regroups (sections lines level) (sections lines finer) := by
  rcases eq_or_ne lines [] with rfl | hne
  · exact .nil
  have hlast : 1 ≤ lines.length := List.length_pos_iff.2 hne
  have hopen := openings_fit lines finer
  rw [sections_eq hne, sections_eq hne, openings_eq_filter hle, List.filter_comm]
  have htop := topOpening_line hopen
  have htop' := topOpening_line (hopen.filter fun h => (h.level : Int) ≤ level)
  have hempty : ([] : List Section).flatMap Section.lineNumbers = List.range' 1 (1 - 1) := rfl
  exact sectionsFrom_regroups _ (topOpening_fit hlast hopen) (htop'.trans htop.symm).le (by rwa [htop, htop'])

end

/-- Sections divide up a document: they are not empty, follow one another and have each line of the
document once; only the first can be without a heading, and every other one starts at a heading of at
most the level and holds no other such heading. The sections at a level are unions of runs of those
at any deeper level. -/
theorem sections_partition (lines : List Text) (level : Int) :
    Sectioned lines level (sections lines level) ∧
      ∀ finer : Int, level ≤ finer → Regroups (sections lines level) (sections lines finer) :=
  ⟨sections_sectioned lines level, fun _ hle => sections_regroups hle⟩

-- each of the two sections at level one is made of two at level two
example :
    let lines := ["a", "## b", "# c", "## d"].map String.toList
    (sections lines 1).map (fun s => (s.first, s.last)) = [(1, 2), (3, 4)] ∧
      (sections lines 2).map (fun s => (s.first, s.last)) = [(1, 1), (2, 2), (3, 3), (4, 4)] := by decide

/-- Where every heading opens a section, the content blocks are the sections without their headings. -/
theorem contentBlocks_eq_map_body {lines : List Text} (hne : lines ≠ []) {level : Int} (hlevel : 6 ≤ level) :
    contentBlocks lines = (sections lines level).map Section.body := by
  have hall : openings lines level = headings (classify lines) := by
    rw [openings, List.filter_eq_self]
    intro h hm
    have := (level_of_mem_headings hm).2
    rw [decide_eq_true_eq]
    omega
  have hf := headings_classify_fit lines
  have hlast : 1 ≤ lines.length := List.length_pos_iff.2 hne
  rw [sections_eq hne, hall, contentBlocks_eq,
    map_body_sectionsFrom (topOpening_fit hlast hf) (topOpening_line hf).ge fun g hg =>
      level_ne_zero_of_mem_headings (List.mem_of_mem_filter hg)]
  rcases topOpening_cases hf with ⟨h, rest, hcons, hline, htop, hrest⟩ | ⟨htop, hall⟩
  · -- no block stands in front of a heading on the first line
    have hopens : h.level ≠ 0 := level_ne_zero_of_mem_headings (hcons ▸ List.mem_cons_self ..)
    rw [htop, hrest, hcons, blocksFrom, if_neg hopens]
    simp only [hline, Nat.lt_irrefl, ↓reduceIte]
  · rw [htop, hall]
    rfl

theorem contentBlocks_eq_map_body_of_adjacent :
    let lines := ["a", "b", "===", "# c"].map String.toList
    lines ≠ [] ∧ contentBlocks lines = (sections lines 6).map Section.body ∧
      (sections lines 6).map Section.body = [⟨1, 1⟩, ⟨4, 3⟩, ⟨5, 4⟩] :=
  ⟨by decide, contentBlocks_eq_map_body (by decide) (by decide), by decide⟩

end MarkdownStyle
