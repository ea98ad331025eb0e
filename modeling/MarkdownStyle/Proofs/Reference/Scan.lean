/-
Reading references block by block. Neither scan for references looks past a line of a heading, so what
the scans of the content blocks find, one after the other, is what one scan of the whole document finds.
The extents of the definitions are disjoint, and hold just the lines of definitions and their
continuations, since a continuation stands directly below what it continues.
-/
import MarkdownStyle.Proofs.Line.Form
import MarkdownStyle.Proofs.Structure.Partition

namespace MarkdownStyle

/-! ## Scans cut at headings -/

/-- A scan of lines that starts anew below every line of a heading, and finds nothing there. -/
structure StopsAtHeadings {α : Type} (scan : List Line → List α) : Prop where
  nil : scan [] = []
  cut : ∀ (above : List Line) (line : Line) (below : List Line), line.role.isFree = false →
    scan (above ++ line :: below) = scan above ++ scan below

theorem StopsAtHeadings.cut_all {α : Type} {scan : List Line → List α} (hs : StopsAtHeadings scan)
    {gap : List Line} (hne : gap ≠ []) (hgap : ∀ line ∈ gap, line.role.isFree = false) (above below : List Line) :
    scan (above ++ (gap ++ below)) = scan above ++ scan below := by
  induction gap generalizing above with
  | nil => exact absurd rfl hne
  | cons line gap ih =>
    obtain ⟨hline, hgap⟩ := List.forall_mem_cons.1 hgap
    rw [List.cons_append, hs.cut _ _ _ hline]
    cases gap with
    | nil => rfl
    | cons next gap =>
      have hrest := ih (List.cons_ne_nil _ _) hgap []
      rw [List.nil_append, hs.nil, List.nil_append] at hrest
      rw [hrest]

/-! ## Slices -/

theorem slice_append (doc : List Line) {a b c : Int} (ha : 1 ≤ a) (hab : a ≤ b + 1) (hbc : b ≤ c) :
    slice doc a b ++ slice doc (b + 1) c = slice doc a c := by
  obtain ⟨i, hi⟩ := Int.eq_ofNat_of_zero_le (show 0 ≤ a - 1 by omega)
  obtain ⟨m, hm⟩ := Int.eq_ofNat_of_zero_le (show 0 ≤ b - (a - 1) by omega)
  obtain ⟨n, hn⟩ := Int.eq_ofNat_of_zero_le (show 0 ≤ c - b by omega)
  have hb : b.toNat = i + m := by omega
  have hc : c.toNat = i + (m + n) := by omega
  have ha : (a - 1).toNat = i := by omega
  have hb' : (b + 1 - 1).toNat = i + m := by omega
  have htake : (doc.drop i).take (m + n) = (doc.drop i).take m ++ (doc.drop (i + m)).take n := by
    rw [List.take_add, List.drop_drop]
  have hsize : i + (m + n) - (i + m) = n := by omega
  unfold slice
  rw [ha, hb, hb', hc, List.drop_take, List.drop_take, List.drop_take, hsize, Nat.add_sub_cancel_left,
    Nat.add_sub_cancel_left, htake]

theorem slice_all (doc : List Line) : slice doc 1 doc.length = doc := by
  simp [slice]

section

variable {α : Type} {scan : List Line → List α} {doc : List Line} {first : Nat} {h : Heading} {hs : List Heading}

/-- The lines of a heading. -/
theorem slice_heading (hn : Numbered 1 doc) (hp : Paired doc) (hm : h ∈ headings doc) :
    slice doc h.line h.lastLine ≠ [] ∧ ∀ line ∈ slice doc h.line h.lastLine, line.role.isFree = false := by
  have hmem : ∀ line, line ∈ slice doc h.line h.lastLine ↔
      line ∈ doc ∧ h.line ≤ line.number ∧ line.number ≤ h.lastLine := by
    intro line
    rw [hn.slice_eq_filter]
    simp
  constructor
  · obtain ⟨line, hline, hl⟩ := List.mem_filterMap.1 hm
    have hnumber := (Heading.ofLine?_eq_some hl).2.1
    have := ((headings_fit hn hp).within h hm).2.1
    exact List.ne_nil_of_mem ((hmem line).2 ⟨hline, by omega, by omega⟩)
  · intro line hline
    obtain ⟨hdoc, hcovers⟩ := (hmem line).1 hline
    by_contra hfree
    exact not_covered_of_isFree hn hp hdoc (by simpa using hfree) hm hcovers

/-- Scans of the blocks below a line make up one scan of all that stands below it. -/
theorem flatMap_blocksFrom (hscan : StopsAtHeadings scan) (hn : Numbered 1 doc) (hp : Paired doc)
    (hpos : 1 ≤ first) (hle : first ≤ doc.length + 1) (hf : HeadingsFit first doc.length hs)
    (hmem : ∀ h ∈ hs, h ∈ headings doc) :
    ((blocksFrom first doc.length hs).flatMap fun b => scan (slice doc b.first b.last)) =
      scan (slice doc first doc.length) := by
  induction hs generalizing first with
  | nil => simp [blocksFrom]
  | cons h rest ih =>
    obtain ⟨hh, hrest⟩ := List.forall_mem_cons.1 hmem
    obtain ⟨hfirst, hline, hlast⟩ := hf.within h (List.mem_cons_self ..)
    obtain ⟨hne, hgap⟩ := slice_heading hn hp hh
    have hbelow := ih (by omega) (by omega) hf.below hrest
    have hcut : scan (slice doc first doc.length) =
        scan (slice doc first ((h.line : Int) - 1)) ++ scan (slice doc ((h.lastLine : Int) + 1) doc.length) := by
      rw [← slice_append doc (by omega) (show (first : Int) ≤ (h.line : Int) - 1 + 1 by omega) (by omega),
        sub_add_cancel,
        ← slice_append doc (by omega) (show (h.line : Int) ≤ (h.lastLine : Int) + 1 by omega) (by omega),
        hscan.cut_all hne hgap]
    rw [blocksFrom, hcut]
    by_cases h1 : 1 < h.line
    · rw [if_pos h1, List.flatMap_cons, hbelow]
      push_cast
      rfl
    · -- above a heading on the first line there is nothing to find
      have hnothing : slice doc first ((h.line : Int) - 1) = [] := by
        have : h.line = 1 := by omega
        simp [slice, this]
      rw [if_neg h1, hbelow, hnothing, hscan.nil, List.nil_append]
      push_cast
      rfl

end

/-- Block by block, a scan that stops at headings finds what it finds in the whole document. -/
theorem StopsAtHeadings.flatMap_contentBlocks {α : Type} {scan : List Line → List α}
    (hscan : StopsAtHeadings scan) (lines : List Text) :
    ((contentBlocks lines).flatMap fun b => scan (slice (classify lines) b.first b.last)) =
      scan (classify lines) := by
  have hf := headings_classify_fit lines
  rw [contentBlocks_eq]
  rw [← length_classify lines] at hf ⊢
  rw [flatMap_blocksFrom hscan (numbered_classify lines) (paired_classify lines) le_rfl (by omega) hf
    fun h hm => hm, Nat.cast_one, slice_all]

/-! ## Definitions and usages -/

/-- The definition as one of another block. -/
def Definition.inBlock (block : Block) (d : Definition) : Definition := { d with block := block }

def Usage.inBlock (block : Block) (u : Usage) : Usage := { u with block := block }

theorem map_inBlock_definitionsFrom (block whole : Block) (lines : List Line) :
    (definitionsFrom block lines).map (Definition.inBlock whole) = definitionsFrom whole lines := by
  induction lines with
  | nil => rfl
  | cons line rest ih =>
    unfold definitionsFrom
    split
    · rw [List.map_cons, ih]
      rfl
    · exact ih

theorem map_inBlock_usagesOn (block whole : Block) (line : Line) :
    (usagesOn block line).map (Usage.inBlock whole) = usagesOn whole line := by
  unfold usagesOn
  split <;> simp [Usage.inBlock]

section

variable {block : Block} {line : Line} {rest : List Line}

theorem definitionsFrom_cons_of_definition {label : Text} (hr : line.role = .definition label) :
    definitionsFrom block (line :: rest) =
      ⟨label, line.number, lastContinuation line.number rest, block⟩ :: definitionsFrom block rest := by
  rw [definitionsFrom, hr]

theorem definitionsFrom_cons_of_ne (hr : ∀ label, line.role ≠ .definition label) :
    definitionsFrom block (line :: rest) = definitionsFrom block rest := by
  rw [definitionsFrom]
  split
  · rename_i label h
    exact absurd h (hr label)
  · rfl

theorem lastContinuation_cons (number : Nat) (hr : line.role = .continuation) :
    lastContinuation number (line :: rest) = lastContinuation line.number rest := by
  unfold lastContinuation
  rw [List.takeWhile_cons_of_pos (by simp [hr]), List.getLast?_cons]
  cases (rest.takeWhile (·.role == .continuation)).getLast? <;> rfl

theorem lastContinuation_cons_of_ne (number : Nat) (hr : line.role ≠ .continuation) :
    lastContinuation number (line :: rest) = number := by
  unfold lastContinuation
  rw [List.takeWhile_cons_of_neg (by simp [hr])]
  rfl

end

theorem lastContinuation_append_cons (number : Nat) (above below : List Line) {line : Line}
    (hr : line.role ≠ .continuation) :
    lastContinuation number (above ++ line :: below) = lastContinuation number above := by
  induction above generalizing number with
  | nil => exact lastContinuation_cons_of_ne number hr
  | cons top above ih =>
    rw [List.cons_append]
    by_cases ht : top.role = .continuation
    · rw [lastContinuation_cons number ht, lastContinuation_cons number ht, ih]
    · rw [lastContinuation_cons_of_ne number ht, lastContinuation_cons_of_ne number ht]

theorem definitionsFrom_stops (block : Block) : StopsAtHeadings (definitionsFrom block) := by
  refine ⟨rfl, fun above line below hfree => ?_⟩
  have hd : ∀ label, line.role ≠ .definition label := by
    intro label h
    rw [h] at hfree
    cases hfree
  have hc : line.role ≠ .continuation := by
    intro h
    rw [h] at hfree
    cases hfree
  induction above with
  | nil => exact definitionsFrom_cons_of_ne hd
  | cons top above ih =>
    rw [List.cons_append, definitionsFrom, definitionsFrom, ih]
    split
    · rw [lastContinuation_append_cons _ _ _ hc, List.cons_append]
    · rfl

theorem flatMap_usagesOn_stops (block : Block) : StopsAtHeadings (List.flatMap (usagesOn block)) := by
  refine ⟨rfl, fun above line below hfree => ?_⟩
  have hnone : usagesOn block line = [] := by
    unfold usagesOn
    split
    · rename_i hr
      rw [hr] at hfree
      cases hfree
    · rename_i hr
      rw [hr] at hfree
      cases hfree
    · rfl
  rw [List.flatMap_append, List.flatMap_cons, hnone, List.nil_append]

/-! ## Extents -/

/-- The numbers of the lines that a definition extends over. -/
def Definition.lineNumbers (d : Definition) : List Nat := List.range' d.line (d.lastLine + 1 - d.line)

/-- A continuation stands directly below a definition or another continuation. -/
def Continued (doc : List Line) : Prop :=
  doc.IsChain fun above below => below.role = .continuation → inDefinition (some above.role) = true

theorem continued_classifyFrom (s : LineScan) (number : Nat) (lines : List Text) :
    Continued (classifyFrom s number lines) := by
  induction lines generalizing s number with
  | nil => exact .nil
  | cons line rest ih =>
    have ih := ih (s.next line) (number + 1)
    cases rest with
    | nil => exact .singleton _
    | cons below rest =>
      rw [classifyFrom_eq_cons, classifyFrom_eq_cons] at *
      exact .cons_cons (fun h => LineScan.inDefinition_above_continuation h) ih

theorem lastContinuation_eq {first : Nat} {rest : List Line} (hn : Numbered (first + 1) rest) :
    lastContinuation first rest = first + (rest.takeWhile (·.role == .continuation)).length := by
  induction rest generalizing first with
  | nil => rfl
  | cons line rest ih =>
    obtain ⟨hl, hr⟩ := hn.of_cons
    by_cases hc : line.role = .continuation
    · rw [lastContinuation_cons first hc, hl, ih hr, List.takeWhile_cons_of_pos (by simp [hc]), List.length_cons]
      omega
    · rw [lastContinuation_cons_of_ne first hc, List.takeWhile_cons_of_neg (by simp [hc])]
      rfl

theorem le_lastLine_of_mem_definitionsFrom {block : Block} {first : Nat} {doc : List Line}
    (hn : Numbered first doc) {d : Definition} (hd : d ∈ definitionsFrom block doc) : d.line ≤ d.lastLine := by
  induction doc generalizing first with
  | nil => cases hd
  | cons line rest ih =>
    obtain ⟨hl, hr⟩ := hn.of_cons
    unfold definitionsFrom at hd
    split at hd
    · rcases List.mem_cons.1 hd with rfl | hd
      · simp only [hl, lastContinuation_eq hr]
        omega
      · exact ih hr hd
    · exact ih hr hd

theorem takeWhile_continuation_eq_nil {doc : List Line} (h : ∀ line ∈ doc.head?, line.role ≠ .continuation) :
    doc.takeWhile (·.role == .continuation) = [] := by
  cases doc with
  | nil => rfl
  | cons line rest => exact List.takeWhile_cons_of_neg (by simpa using h line rfl)

/-- The extents are the lines of definitions with their continuations. What continues a definition
further up stands at the top, and the induction keeps it apart. -/
theorem lineNumbers_definitionsFrom {first : Nat} {doc : List Line} (hn : Numbered first doc) (hc : Continued doc)
    (block : Block) :
    (doc.takeWhile (·.role == .continuation)).map (·.number) ++
        (definitionsFrom block doc).flatMap Definition.lineNumbers =
      (doc.filter fun line => inDefinition (some line.role)).map (·.number) := by
  induction doc generalizing first with
  | nil => rfl
  | cons line rest ih =>
    obtain ⟨hl, hr⟩ := hn.of_cons
    obtain ⟨hbelow, hrest⟩ := List.isChain_cons.1 hc
    have ih := ih hr hrest
    by_cases hcont : line.role = .continuation
    · rw [List.takeWhile_cons_of_pos (by simp [hcont]), definitionsFrom_cons_of_ne (by simp [hcont]),
        List.filter_cons_of_pos (by simp [hcont, inDefinition]), List.map_cons, List.map_cons, List.cons_append, ih]
    · rw [List.takeWhile_cons_of_neg (by simp [hcont]), List.map_nil, List.nil_append]
      by_cases hdef : ∃ label, line.role = .definition label
      · obtain ⟨label, hdef⟩ := hdef
        have hextent : Definition.lineNumbers ⟨label, line.number, lastContinuation line.number rest, block⟩ =
            line.number :: (rest.takeWhile (·.role == .continuation)).map (·.number) := by
          have hrun : Numbered (first + 1) (rest.takeWhile (·.role == .continuation)) :=
            hr.of_prefix (List.takeWhile_prefix _)
          unfold Definition.lineNumbers
          simp only
          rw [hl, lastContinuation_eq hr, hrun, Nat.add_assoc, Nat.add_sub_cancel_left, List.range'_succ]
        rw [definitionsFrom_cons_of_definition hdef, List.flatMap_cons, hextent, List.cons_append, ih,
          List.filter_cons_of_pos (by simp [hdef, inDefinition]), List.map_cons]
      · -- nothing can be continued below any other line
        have hnone : inDefinition (some line.role) = false := by
          cases hr : line.role <;> simp_all [inDefinition]
        have htop : rest.takeWhile (·.role == .continuation) = [] := by
          refine takeWhile_continuation_eq_nil fun below hb h => ?_
          rw [hbelow below hb h] at hnone
          cases hnone
        rw [htop, List.map_nil, List.nil_append] at ih
        rw [definitionsFrom_cons_of_ne fun label h => hdef ⟨label, h⟩,
          List.filter_cons_of_neg (by simp [hnone]), ih]

/-! ## Documents -/

theorem continued_classify (lines : List Text) : Continued (classify lines) := continued_classifyFrom .start 1 lines

/-- Nothing is continued on the first line. -/
theorem takeWhile_continuation_classify (lines : List Text) :
    (classify lines).takeWhile (·.role == .continuation) = [] := by
  refine takeWhile_continuation_eq_nil fun line hline hcont => ?_
  rw [List.head?_eq_getElem?] at hline
  have hfinal := (getElem?_classify_eq_some.1 hline).2.2
  have hrole : LineScan.start.role line.text = .continuation :=
    (LineScan.role_of_finalRole (hfinal.symm.trans hcont) rfl).1
  have hreads := LineScan.start.reads line.text
  rw [hrole] at hreads
  cases hreads.inDefinition_above

theorem lineNumbers_definitionsFrom_classify (lines : List Text) (block : Block) :
    (definitionsFrom block (classify lines)).flatMap Definition.lineNumbers =
      ((classify lines).filter fun line => inDefinition (some line.role)).map (·.number) := by
  rw [← lineNumbers_definitionsFrom (numbered_classify lines) (continued_classify lines) block,
    takeWhile_continuation_classify, List.map_nil, List.nil_append]

/-- Each definition ends above the next: otherwise the numbers of their lines would not ascend. -/
theorem definitionsFrom_classify_disjoint (lines : List Text) (block : Block) :
    (definitionsFrom block (classify lines)).Pairwise fun a b => a.lastLine < b.line := by
  have hn := numbered_classify lines
  have hsorted : ((definitionsFrom block (classify lines)).flatMap Definition.lineNumbers).Pairwise (· < ·) := by
    rw [lineNumbers_definitionsFrom_classify, List.pairwise_map]
    exact hn.pairwise.filter _
  rw [List.pairwise_flatMap] at hsorted
  refine hsorted.2.imp_of_mem fun {a b} ha hb hab => hab a.lastLine ?_ b.line ?_
  · have := le_lastLine_of_mem_definitionsFrom hn ha
    simp only [Definition.lineNumbers, List.mem_range'_1]
    omega
  · have := le_lastLine_of_mem_definitionsFrom hn hb
    simp only [Definition.lineNumbers, List.mem_range'_1]
    omega

theorem slice_classify_all (lines : List Text) : slice (classify lines) 1 lines.length = classify lines := by
  rw [← length_classify lines, slice_all]

/-- Block by block, the scans for definitions and for usages find what one scan of all lines finds, and
in the same order. The definitions extend over lines of their own, one below the other, and these are
just the lines of definitions and continuations. -/
theorem references_by_block (lines : List Text) :
    let doc := classify lines
    let whole : Block := ⟨1, lines.length⟩
    ((contentBlocks lines).flatMap fun b => (definitions doc b).map (Definition.inBlock whole)) =
        definitions doc whole ∧
      ((contentBlocks lines).flatMap fun b => (usages doc b).map (Usage.inBlock whole)) = usages doc whole ∧
      (∀ d ∈ definitions doc whole, d.line ≤ d.lastLine) ∧
      ((definitions doc whole).Pairwise fun a b => a.lastLine < b.line) ∧
      (definitions doc whole).flatMap Definition.lineNumbers =
        (doc.filter fun line => inDefinition (some line.role)).map (·.number) := by
  intro doc whole
  have hwhole : slice doc whole.first whole.last = doc := slice_classify_all lines
  unfold definitions usages
  simp only [map_inBlock_definitionsFrom, List.map_flatMap, map_inBlock_usagesOn, hwhole]
  refine ⟨?_, ?_, ?_, ?_, ?_⟩
  · exact (definitionsFrom_stops whole).flatMap_contentBlocks lines
  · exact (flatMap_usagesOn_stops whole).flatMap_contentBlocks lines
  · exact fun d hd => le_lastLine_of_mem_definitionsFrom (numbered_classify lines) hd
  · exact definitionsFrom_classify_disjoint lines whole
  · exact lineNumbers_definitionsFrom_classify lines whole

-- a line that an underline turns into a heading no longer continues the definition above it
example :
    let lines := ["[a]: x", "y", "===", "[b]: z", "w"].map String.toList
    (definitions (classify lines) ⟨1, 5⟩).map (fun d => (d.line, d.lastLine)) = [(1, 1), (4, 5)] := by decide

end MarkdownStyle
