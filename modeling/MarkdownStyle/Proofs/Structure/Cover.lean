/-
Blocks and headings listed by the numbers of their lines: laid end to end they are a rearrangement
of the line numbers of the document, so that no line is lost and none is counted twice. Blocks start
one below the other even where they are empty, and their number is known from the headings: one
block under each heading, and one in front of the first unless that heading opens the document.
-/
import MarkdownStyle.Proofs.Structure.Partition
import Mathlib.Data.Int.Range
import Mathlib.Tactic

namespace MarkdownStyle

/-! ## Line numbers -/

/-- The numbers of the lines of a block, none if it ends before it starts. -/
def Block.lineNumbers (b : Block) : List Int := Int.range b.first (b.last + 1)

/-- The numbers of the lines that a heading occupies, its underline included. -/
def Heading.lineNumbers (h : Heading) : List Int := Int.range h.line (h.lastLine + 1)

@[simp] theorem Block.mem_lineNumbers {b : Block} {k : Int} : k ∈ b.lineNumbers ↔ b.contains k = true := by
  simp [lineNumbers, Int.mem_range_iff, contains]

@[simp] theorem Block.length_lineNumbers (b : Block) : b.lineNumbers.length = b.size := by
  simp [lineNumbers, Int.range, size]

theorem range_eq_nil {a b : Int} (h : b ≤ a) : Int.range a b = [] := by
  simp [Int.range, h]

/-- Adjacent ranges make up one range. -/
theorem range_append {a b c : Int} (hab : a ≤ b) (hbc : b ≤ c) :
    Int.range a b ++ Int.range b c = Int.range a c := by
  obtain ⟨m, rfl⟩ := Int.le.dest hab
  obtain ⟨n, rfl⟩ := Int.le.dest hbc
  have hsum : (a + m + n - a).toNat = m + n := by omega
  have hm : (a + m - a).toNat = m := by omega
  have hn : (a + m + n - (a + m)).toNat = n := by omega
  simp only [Int.range, hsum, hm, hn, List.range_add, List.map_append, List.map_map]
  congr 1
  apply List.map_congr_left
  intro k _
  simp only [Function.comp_apply]
  push_cast
  omega

/-! ## One heading at a time -/

section Headings

variable {first last : Nat} {h : Heading} {rest hs : List Heading}

theorem HeadingsFit.head (hf : HeadingsFit first last (h :: rest)) :
    first ≤ h.line ∧ h.line ≤ h.lastLine ∧ h.lastLine ≤ last := hf.within h (List.mem_cons_self ..)

theorem blocksFrom_cons (first last : Nat) (h : Heading) (rest : List Heading) :
    blocksFrom first last (h :: rest) =
      (if 1 < h.line then [⟨first, (h.line : Int) - 1⟩] else []) ++ blocksFrom (h.lastLine + 1) last rest := by
  rw [blocksFrom]
  split <;> rfl

/-- The block in front of a heading covers the lines above it, whether or not there is one: only
the first line has none. -/
theorem lineNumbers_in_front (hpos : 1 ≤ first) :
    (if 1 < h.line then [⟨first, (h.line : Int) - 1⟩] else []).flatMap Block.lineNumbers =
      Int.range first h.line := by
  by_cases h1 : 1 < h.line
  · simp [h1, Block.lineNumbers]
  · rw [range_eq_nil (by omega)]
    simp [h1]

theorem blocksFrom_cover (hpos : 1 ≤ first) (hle : first ≤ last + 1) (hf : HeadingsFit first last hs) :
    ((blocksFrom first last hs).flatMap Block.lineNumbers ++ hs.flatMap Heading.lineNumbers).Perm
      (Int.range first (last + 1)) := by
  induction hs generalizing first with
  | nil => simp [blocksFrom, Block.lineNumbers]
  | cons h rest ih =>
    obtain ⟨hfirst, hline, hlast⟩ := hf.head
    have ih := ih (by omega) (by omega) hf.below
    have hcut : Int.range first h.line ++ (h.lineNumbers ++ Int.range ↑(h.lastLine + 1) (last + 1)) =
        Int.range first (last + 1) := by
      rw [Heading.lineNumbers, Int.natCast_succ, range_append (by omega) (by omega),
        range_append (by omega) (by omega)]
    rw [blocksFrom_cons, List.flatMap_append, lineNumbers_in_front hpos, List.flatMap_cons,
      List.append_assoc, ← hcut]
    -- the heading's own lines stand behind all blocks, and belong in front of those below it
    exact .append_left _ ((List.perm_append_comm_assoc ..).trans (.append_left _ ih))

/-- Blocks start one below the other: between two of them there is a heading. -/
theorem blocksFrom_starts (hpos : 1 ≤ first) (hle : first ≤ last + 1) (hf : HeadingsFit first last hs) :
    (blocksFrom first last hs).Pairwise fun a b => a.first < b.first := by
  induction hs generalizing first with
  | nil => exact List.pairwise_singleton _ _
  | cons h rest ih =>
    obtain ⟨hfirst, hline, hlast⟩ := hf.head
    have hpos' : 1 ≤ h.lastLine + 1 := by omega
    have hle' : h.lastLine + 1 ≤ last + 1 := by omega
    rw [blocksFrom_cons, List.pairwise_append]
    refine ⟨by split <;> simp, ih hpos' hle' hf.below, fun a ha b hb => ?_⟩
    have hstart : a.first = first := by
      split at ha
      · rw [List.mem_singleton.1 ha]
      · cases ha
    have := ((blocksFrom_fit hpos' hle' hf.below).within b hb).1
    omega

/-- Every heading with a line above it closes a block, and the end of the document closes the last. -/
theorem length_blocksFrom (first last : Nat) (hs : List Heading) :
    (blocksFrom first last hs).length = hs.countP (1 < ·.line) + 1 := by
  induction hs generalizing first with
  | nil => rfl
  | cons h rest ih =>
    rw [blocksFrom_cons, List.length_append, ih, List.countP_cons]
    by_cases h1 : 1 < h.line
    · simp [h1, Nat.add_comm]
    · simp [h1]

/-- Only the first heading can be on the first line. -/
theorem HeadingsFit.countP_add_one (hf : HeadingsFit 1 last hs) :
    hs.countP (1 < ·.line) + 1 = hs.length + if hs.head?.map (·.line) = some 1 then 0 else 1 := by
  rcases hs with _ | ⟨h, rest⟩
  · rfl
  obtain ⟨hfirst, hline, -⟩ := hf.head
  have hrest : rest.countP (1 < ·.line) = rest.length := by
    rw [List.countP_eq_length]
    intro g hg
    have := (hf.below.within g hg).1
    simp only [decide_eq_true_eq]
    omega
  by_cases h1 : h.line = 1
  · simp [h1, hrest]
  · have : 1 < h.line := by omega
    simp [h1, this, hrest]

end Headings

/-! ## Documents -/

/-- Blocks and headings share out the lines of a document: every line number occurs in exactly one
of them, once. Blocks come one below the other, an empty one ends one line before it starts, and
there is one for each heading and one more, unless the first line is a heading. -/
theorem blocks_partition (lines : List Text) :
    ((contentBlocks lines).flatMap Block.lineNumbers ++
        (headings (classify lines)).flatMap Heading.lineNumbers).Perm (Int.range 1 (lines.length + 1)) ∧
      (contentBlocks lines).Pairwise (fun a b => a.last < b.first ∧ a.first < b.first) ∧
      (∀ b ∈ contentBlocks lines, b.first - 1 ≤ b.last) ∧
      (contentBlocks lines).length = (headings (classify lines)).length +
        if (headings (classify lines)).head?.map (·.line) = some 1 then 0 else 1 := by
  have hf := headings_classify_fit lines
  have hle : 1 ≤ lines.length + 1 := by omega
  refine ⟨?_, ?_, ?_, ?_⟩
  · rw [contentBlocks_eq]
    exact blocksFrom_cover le_rfl hle hf
  · have hstarts := blocksFrom_starts le_rfl hle hf
    rw [← contentBlocks_eq] at hstarts
    exact (blocks_fit lines).ordered.and hstarts
  · intro b hb
    have := ((blocks_fit lines).within b hb).2.1
    omega
  · rw [contentBlocks_eq, length_blocksFrom, hf.countP_add_one]

-- no block in front of the first line, an empty one between the headings and another at the end
example : contentBlocks (["a", "===", "# b"].map String.toList) = [⟨3, 2⟩, ⟨4, 3⟩] := by decide

end MarkdownStyle
