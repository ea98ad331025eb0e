/-
Headings and content blocks share out the lines of a document. Headings come in order and do not
overlap, because the second line of an underlined one is its underline; blocks come in order too,
and a line that belongs to no heading lies in exactly one of them. Ranges of lines are described
by the numbers of their lines, whatever bounds they are given.
-/
import MarkdownStyle.Proofs.Line.Pass
import MarkdownStyle.Reference.Basic

namespace MarkdownStyle

/-! ## Numbered lines -/

/-- The lines of a document are numbered one by one from `first`. -/
def Numbered (first : Nat) (doc : List Line) : Prop :=
  doc.map (·.number) = List.range' first doc.length

theorem numbered_classifyFrom (s : LineScan) (number : Nat) (lines : List Text) :
    Numbered number (classifyFrom s number lines) := by
  rw [Numbered, map_number_classifyFrom, length_classifyFrom]

theorem numbered_classify (lines : List Text) : Numbered 1 (classify lines) :=
  numbered_classifyFrom .start 1 lines

theorem paired_classify (lines : List Text) : Paired (classify lines) := paired_classifyFrom .start 1 lines

namespace Numbered

variable {first : Nat} {line : Line} {doc rest : List Line}

theorem of_cons (h : Numbered first (line :: rest)) : line.number = first ∧ Numbered (first + 1) rest := by
  simpa [Numbered, List.range'_succ] using h

theorem mem_bounds (h : Numbered first doc) {x : Line} (hx : x ∈ doc) :
    first ≤ x.number ∧ x.number < first + doc.length := by
  have := List.mem_map_of_mem (f := (·.number)) hx
  rw [h, List.mem_range'_1] at this
  exact this

theorem pairwise (h : Numbered first doc) : doc.Pairwise (·.number < ·.number) := by
  have := List.pairwise_lt_range' (s := first) (n := doc.length)
  rw [← h, List.pairwise_map] at this
  exact this

theorem eq_of_number (h : Numbered first doc) {x y : Line} (hx : x ∈ doc) (hy : y ∈ doc)
    (hxy : x.number = y.number) : x = y := by
  have hn : (doc.map (·.number)).Nodup := by rw [h]; exact List.nodup_range'
  exact List.inj_on_of_nodup_map hn hx hy hxy

theorem getElem? (h : Numbered first doc) {x : Line} (hx : x ∈ doc) : doc[x.number - first]? = some x := by
  obtain ⟨i, hi, rfl⟩ := List.getElem_of_mem hx
  have hnum : (doc.map (·.number))[i]? = some (first + i) := by
    rw [show doc.map (·.number) = _ from h, List.getElem?_range' hi, Nat.one_mul]
  rw [List.getElem?_map, List.getElem?_eq_getElem hi, Option.map_some, Option.some.injEq] at hnum
  rw [hnum, Nat.add_sub_cancel_left, List.getElem?_eq_getElem hi]

theorem take_eq_filter (h : Numbered first doc) (n : Nat) :
    doc.take n = doc.filter fun x => x.number < first + n := by
  induction doc generalizing first n with
  | nil => simp
  | cons line rest ih =>
    obtain ⟨hl, hr⟩ := h.of_cons
    cases n with
    | zero =>
      symm
      rw [List.take_zero, List.filter_eq_nil_iff]
      intro x hx
      have := (h.mem_bounds hx).1
      simp only [decide_eq_true_eq]
      omega
    | succ n =>
      rw [List.take_succ_cons, List.filter_cons_of_pos (by simp; omega), ih hr n]
      simp only [Nat.add_assoc, Nat.add_comm 1 n]

theorem drop_eq_filter (h : Numbered first doc) (n : Nat) :
    doc.drop n = doc.filter fun x => first + n ≤ x.number := by
  induction doc generalizing first n with
  | nil => simp
  | cons line rest ih =>
    obtain ⟨hl, hr⟩ := h.of_cons
    cases n with
    | zero =>
      symm
      rw [List.drop_zero, List.filter_eq_self]
      intro x hx
      simpa using (h.mem_bounds hx).1
    | succ n =>
      rw [List.drop_succ_cons, List.filter_cons_of_neg (by simp; omega), ih hr n]
      simp only [Nat.add_assoc, Nat.add_comm 1 n]

theorem take (h : Numbered first doc) (n : Nat) : Numbered first (doc.take n) := by
  unfold Numbered
  rw [List.map_take, h, List.length_take]
  exact List.ext_getElem (by simp) (by simp)

theorem of_prefix {front : List Line} (h : Numbered first doc) (hp : front <+: doc) : Numbered first front := by
  rw [List.prefix_iff_eq_take.1 hp]
  exact h.take _

/-- A range holds the lines whose numbers lie between its bounds, also where these reach beyond
the document. -/
theorem slice_eq_filter (h : Numbered 1 doc) (a b : Int) :
    slice doc a b = doc.filter fun x => a ≤ x.number && (x.number : Int) ≤ b := by
  unfold slice
  rw [(h.take _).drop_eq_filter, h.take_eq_filter, List.filter_filter]
  apply List.filter_congr
  intro x hx
  have := (h.mem_bounds hx).1
  rw [Bool.eq_iff_iff]
  simp only [Bool.and_eq_true, decide_eq_true_eq]
  omega

theorem mem_slice (h : Numbered 1 doc) {x : Line} {block : Block} :
    x ∈ slice doc block.first block.last ↔ x ∈ doc ∧ block.contains x.number = true := by
  rw [h.slice_eq_filter, List.mem_filter]
  rfl

end Numbered

/-! ## Headings in order -/

/-- Headings within a range of lines, one below the other. -/
structure HeadingsFit (first last : Nat) (hs : List Heading) : Prop where
  ordered : hs.Pairwise fun a b => a.lastLine < b.line
  within : ∀ h ∈ hs, first ≤ h.line ∧ h.line ≤ h.lastLine ∧ h.lastLine ≤ last

/-- Under its first heading, the other headings stay within the lines below it. -/
theorem HeadingsFit.below {first last : Nat} {h : Heading} {rest : List Heading}
    (hf : HeadingsFit first last (h :: rest)) : HeadingsFit (h.lastLine + 1) last rest := by
  obtain ⟨hbelow, hrest⟩ := List.pairwise_cons.1 hf.ordered
  refine ⟨hrest, fun g hg => ?_⟩
  have := hbelow g hg
  have := hf.within g (List.mem_cons_of_mem _ hg)
  omega

section

variable {first last : Nat} {g h : Heading} {hs rest : List Heading}

theorem HeadingsFit.filter (hf : HeadingsFit first last hs) (p : Heading → Bool) :
    HeadingsFit first last (hs.filter p) :=
  ⟨hf.ordered.filter p, fun h hm => hf.within h (List.mem_of_mem_filter hm)⟩

theorem HeadingsFit.line_lt (hf : HeadingsFit first last (h :: rest)) (hg : g ∈ rest) : h.line < g.line := by
  have := (hf.within h (List.mem_cons_self ..)).2.1
  have := (hf.below.within g hg).1
  omega

theorem HeadingsFit.line_le (hf : HeadingsFit first last (h :: rest)) (hg : g ∈ h :: rest) : h.line ≤ g.line := by
  rcases List.mem_cons.1 hg with rfl | hg
  · exact le_rfl
  · exact (hf.line_lt hg).le

theorem HeadingsFit.eq_of_line (hf : HeadingsFit first last hs) (hg : g ∈ hs) (hh : h ∈ hs)
    (hline : g.line = h.line) : g = h := by
  have hordered : hs.Pairwise fun a b => a.line < b.line := by
    refine hf.ordered.imp_of_mem fun {a b} ha _ hab => ?_
    have := (hf.within a ha).2.1
    omega
  have hnodup : (hs.map (·.line)).Nodup := List.pairwise_map.2 (hordered.imp Nat.ne_of_lt)
  exact List.inj_on_of_nodup_map hnodup hg hh hline

end

theorem headings_cons (line : Line) (rest : List Line) :
    headings (line :: rest) = (Heading.ofLine? line).toList ++ headings rest := by
  unfold headings
  rcases h : Heading.ofLine? line with _ | heading <;> simp [h]

theorem Heading.ofLine?_eq_some {line : Line} {h : Heading} (hl : Heading.ofLine? line = some h) :
    line.role.isHeading = true ∧ h.line = line.number ∧ h.isUnderlined = line.role.isUnderlined := by
  unfold Heading.ofLine? at hl
  split at hl
  · rename_i hr
    cases hl
    exact ⟨hr, rfl, rfl⟩
  · cases hl

/-- Underlined text is followed by its underline. -/
theorem Paired.underline_below {line : Line} {rest : List Line} (h : Paired (line :: rest))
    (hu : line.role.isUnderlined = true) :
    ∃ below rest', rest = below :: rest' ∧ ∃ level, below.role = .underline level := by
  obtain ⟨h, -⟩ := h
  split at h
  · rename_i level hr
    obtain ⟨below, hb, hbr⟩ := Option.map_eq_some_iff.1 hr
    obtain ⟨rest', rfl⟩ := List.head?_eq_some_iff.1 hb
    exact ⟨below, rest', rfl, level, hbr⟩
  · rw [h] at hu; cases hu

/-- The induction carries along that nothing starts on an underline at the top. -/
theorem headings_fit_and {first : Nat} {doc : List Line} (hn : Numbered first doc) (hp : Paired doc) :
    HeadingsFit first (first + doc.length - 1) (headings doc) ∧
      ∀ level, doc.head?.map (·.role) = some (.underline level) →
        ∀ h ∈ headings doc, first + 1 ≤ h.line := by
  induction doc generalizing first with
  | nil => exact ⟨⟨List.Pairwise.nil, by simp [headings]⟩, by simp [headings]⟩
  | cons line rest ih =>
    obtain ⟨hl, hr⟩ := hn.of_cons
    obtain ⟨ih, ihu⟩ := ih hr hp.2
    have hlast : first + 1 + rest.length - 1 = first + (line :: rest).length - 1 := by
      rw [List.length_cons]; omega
    rw [hlast] at ih
    rw [headings_cons]
    rcases hh : Heading.ofLine? line with _ | heading
    · refine ⟨⟨ih.ordered, fun h hm => ?_⟩, fun level _ h hm => (ih.within h hm).1⟩
      have := ih.within h hm
      omega
    · obtain ⟨hrole, hline, hund⟩ := Heading.ofLine?_eq_some hh
      have hbelow : ∀ h ∈ headings rest, heading.lastLine < h.line := by
        intro h hm
        unfold Heading.lastLine
        split
        · -- the heading takes in its underline, and nothing starts there
          rename_i hu
          obtain ⟨below, rest', rfl, level, hb⟩ := hp.underline_below (hund ▸ hu)
          have := ihu level (by simp [hb]) h hm
          omega
        · have := (ih.within h hm).1
          omega
      have hfit : heading.lastLine ≤ first + (line :: rest).length - 1 := by
        rw [List.length_cons]
        unfold Heading.lastLine
        split
        · rename_i hu
          obtain ⟨below, rest', rfl, -⟩ := hp.underline_below (hund ▸ hu)
          rw [List.length_cons]; omega
        · omega
      have hle : heading.line ≤ heading.lastLine := by unfold Heading.lastLine; split <;> omega
      refine ⟨⟨List.pairwise_cons.2 ⟨hbelow, ih.ordered⟩, fun h hm => ?_⟩, fun level hu => ?_⟩
      · rcases List.mem_cons.1 hm with rfl | hm
        · omega
        · have := ih.within h hm
          omega
      · simp only [List.head?_cons, Option.map_some, Option.some.injEq] at hu
        rw [hu] at hrole
        cases hrole

theorem headings_fit {first : Nat} {doc : List Line} (hn : Numbered first doc) (hp : Paired doc) :
    HeadingsFit first (first + doc.length - 1) (headings doc) := (headings_fit_and hn hp).1

theorem Paired.underline_of_mem {first : Nat} {doc : List Line} (hn : Numbered first doc) (hp : Paired doc)
    {line : Line} (hm : line ∈ doc) (hu : line.role.isUnderlined = true) :
    ∃ below ∈ doc, below.number = line.number + 1 ∧ ∃ level, below.role = .underline level := by
  induction doc generalizing first with
  | nil => cases hm
  | cons top rest ih =>
    obtain ⟨ht, hr⟩ := hn.of_cons
    rcases List.mem_cons.1 hm with rfl | hm
    · obtain ⟨below, rest', rfl, level, hb⟩ := hp.underline_below hu
      exact ⟨below, by simp, by rw [hr.of_cons.1, ht], level, hb⟩
    · obtain ⟨below, hmb, h⟩ := ih hr hp.2 hm
      exact ⟨below, List.mem_cons_of_mem _ hmb, h⟩

/-- A line is free if it belongs to no heading, neither with its text nor as underline. -/
def LineRole.isFree : LineRole → Bool
  | hashHeading .. | underlinedText .. | underline _ => false
  | _ => true

/-- No heading reaches to a free line. -/
theorem not_covered_of_isFree {first : Nat} {doc : List Line} (hn : Numbered first doc) (hp : Paired doc)
    {line : Line} (hm : line ∈ doc) (hf : line.role.isFree = true) {h : Heading} (hh : h ∈ headings doc) :
    ¬ (h.line ≤ line.number ∧ line.number ≤ h.lastLine) := by
  rintro ⟨h1, h2⟩
  obtain ⟨top, ht, hl⟩ := List.mem_filterMap.1 hh
  obtain ⟨hrole, hline, hund⟩ := Heading.ofLine?_eq_some hl
  have hne : line.number ≠ top.number := by
    intro he
    rw [hn.eq_of_number hm ht he] at hf
    rcases hr : top.role <;> simp_all [LineRole.isFree, LineRole.isHeading]
  unfold Heading.lastLine at h2
  split at h2
  · -- the free line would have to be the underline
    rename_i hu
    obtain ⟨below, hb, hnum, level, hr⟩ := hp.underline_of_mem hn ht (hund ▸ hu)
    rw [hn.eq_of_number hm hb (by omega), hr] at hf
    cases hf
  · omega

/-! ## Blocks in order -/

/-- Blocks within a range of lines, one below the other. -/
structure BlocksFit (first last : Nat) (bs : List Block) : Prop where
  ordered : bs.Pairwise fun a b => a.last < b.first
  within : ∀ b ∈ bs, (first : Int) ≤ b.first ∧ b.first ≤ b.last + 1 ∧ b.last ≤ last

theorem blocksFrom_fit {first last : Nat} {hs : List Heading} (hpos : 1 ≤ first) (hle : first ≤ last + 1)
    (hf : HeadingsFit first last hs) : BlocksFit first last (blocksFrom first last hs) := by
  induction hs generalizing first with
  | nil => exact ⟨List.pairwise_singleton _ _, by simp [blocksFrom]; omega⟩
  | cons h rest ih =>
    obtain ⟨hw1, hw2, hw3⟩ := hf.within h (List.mem_cons_self ..)
    obtain ⟨ih1, ih2⟩ := ih (by omega) (by omega) hf.below
    have hlow : ∀ b ∈ blocksFrom (h.lastLine + 1) last rest, (first : Int) ≤ b.first := by
      intro b hb
      have := (ih2 b hb).1
      omega
    unfold blocksFrom
    by_cases h1 : 1 < h.line
    · simp only [h1, ↓reduceIte]
      refine ⟨List.pairwise_cons.2 ⟨fun b hb => ?_, ih1⟩, fun b hb => ?_⟩
      · have := (ih2 b hb).1
        simp only
        omega
      · rcases List.mem_cons.1 hb with rfl | hb
        · simp only
          omega
        · exact ⟨hlow b hb, (ih2 b hb).2⟩
    · simp only [h1, ↓reduceIte]
      exact ⟨ih1, fun b hb => ⟨hlow b hb, (ih2 b hb).2⟩⟩

theorem blocksFrom_covers {first last k : Nat} {hs : List Heading} (hpos : 1 ≤ first)
    (hf : HeadingsFit first last hs) (h1 : first ≤ k) (h2 : k ≤ last)
    (hk : ∀ h ∈ hs, ¬ (h.line ≤ k ∧ k ≤ h.lastLine)) : ∃ b ∈ blocksFrom first last hs, b.contains k = true := by
  induction hs generalizing first with
  | nil => exact ⟨⟨first, last⟩, by simp [blocksFrom], by simp [Block.contains]; omega⟩
  | cons h rest ih =>
    have hnot := hk h (List.mem_cons_self ..)
    unfold blocksFrom
    by_cases habove : k < h.line
    · -- the block in front of the heading
      rw [if_pos (by have := (hf.within h (List.mem_cons_self ..)); omega)]
      exact ⟨_, List.mem_cons_self .., by simp [Block.contains]; omega⟩
    · obtain ⟨b, hb, hc⟩ := ih (by omega) hf.below (by omega) fun g hg => hk g (List.mem_cons_of_mem _ hg)
      refine ⟨b, ?_, hc⟩
      simp only
      split
      · exact List.mem_cons_of_mem _ hb
      · exact hb

theorem BlocksFit.eq_of_contains {first last : Nat} {bs : List Block} (hf : BlocksFit first last bs)
    {a b : Block} (ha : a ∈ bs) (hb : b ∈ bs) {k : Int} (hak : a.contains k = true)
    (hbk : b.contains k = true) : a = b := by
  simp only [Block.contains, Bool.and_eq_true, decide_eq_true_eq] at hak hbk
  obtain ⟨i, hi, rfl⟩ := List.getElem_of_mem ha
  obtain ⟨j, hj, rfl⟩ := List.getElem_of_mem hb
  rcases Nat.lt_trichotomy i j with hij | rfl | hij
  · have := List.pairwise_iff_getElem.1 hf.ordered i j hi hj hij
    omega
  · rfl
  · have := List.pairwise_iff_getElem.1 hf.ordered j i hj hi hij
    omega

/-! ## Documents -/

/-- The headings of a document of `n` lines lie within lines `1` to `n`. -/
theorem headings_classify_fit (lines : List Text) :
    HeadingsFit 1 lines.length (headings (classify lines)) := by
  have h := headings_fit (numbered_classify lines) (paired_classify lines)
  rwa [Nat.add_sub_cancel_left, length_classify] at h

theorem contentBlocks_eq (lines : List Text) :
    contentBlocks lines = blocksFrom 1 lines.length (headings (classify lines)) := by
  rw [contentBlocks, blocks, length_classify]

theorem blocks_fit (lines : List Text) : BlocksFit 1 lines.length (contentBlocks lines) := by
  rw [contentBlocks_eq]
  exact blocksFrom_fit le_rfl (by omega) (headings_classify_fit lines)

/-- A free line lies in a content block. -/
theorem exists_block {lines : List Text} {line : Line} (hm : line ∈ classify lines)
    (hf : line.role.isFree = true) : ∃ b ∈ contentBlocks lines, b.contains line.number = true := by
  have hn := numbered_classify lines
  have hb := hn.mem_bounds hm
  rw [length_classify] at hb
  rw [contentBlocks_eq]
  exact blocksFrom_covers le_rfl (headings_classify_fit lines) hb.1 (by omega) fun g hg =>
    not_covered_of_isFree hn (paired_classify lines) hm hf hg

end MarkdownStyle
