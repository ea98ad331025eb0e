/-
The fence scan as a search. The scan passes each line once and keeps a state; what it finds can be told
without one: a block opens at the first fence run, the first run below that closes it ends it, the next
block opens at the first fence run below that, and so on. Fences are the ends of these blocks, and code
is what stands inside. Places are counted from zero.
-/
import MarkdownStyle.Proofs.Line.Place
import MarkdownStyle.Proofs.Line.Reading

namespace MarkdownStyle

/-! ## Blocks by the places of their fences -/

/-- Whether a fence run closes the block behind another one: it has the same character, and is at least
as long and at least as deep. -/
def FenceLine.Closes (opener run : FenceLine) : Prop :=
  run.marker = opener.marker ∧ opener.length ≤ run.length ∧ opener.indent.length ≤ run.indent.length

/-- The line at a place is written as a fence run: whitespace, at least three backticks or tildes, and an
info string that does not go on with them. -/
def FenceRunAt (lines : List Text) (i : Nat) (run : FenceLine) : Prop :=
  run.Proper ∧ lines[i]? = some run.written

/-- The places from one on that hold a fence run. -/
def runsFrom (lines : List Text) (start : Nat) : Set Nat := {i | start ≤ i ∧ ∃ run, FenceRunAt lines i run}

/-- The places below a fence run that hold a run which closes its block. -/
def closersBelow (lines : List Text) (i : Nat) (opener : FenceLine) : Set Nat :=
  {j | i < j ∧ ∃ run, FenceRunAt lines j run ∧ opener.Closes run}

/-- A fenced block by the places of its fences. One without a closing fence runs to the end. -/
structure FenceSpan where
  opener : Nat
  closer : Option Nat

namespace FenceSpan

/-- The places of the fences of a block. -/
def fences (b : FenceSpan) : List Nat := b.opener :: b.closer.toList

/-- Whether a place stands between the fences of a block, or below the only one. -/
def Inside (b : FenceSpan) (i : Nat) : Prop := b.opener < i ∧ ∀ closer ∈ b.closer, i < closer

end FenceSpan

/-- The fenced blocks from a place on, each found by searching for the first place of what comes next. -/
inductive FenceSpans (lines : List Text) : Nat → List FenceSpan → Prop
  | none {start : Nat} : runsFrom lines start = ∅ → FenceSpans lines start []
  | unclosed {start i : Nat} {opener : FenceLine} : IsLeast (runsFrom lines start) i →
      FenceRunAt lines i opener → closersBelow lines i opener = ∅ →
      FenceSpans lines start [⟨i, Option.none⟩]
  | closed {start i j : Nat} {opener : FenceLine} {spans : List FenceSpan} : IsLeast (runsFrom lines start) i →
      FenceRunAt lines i opener → IsLeast (closersBelow lines i opener) j →
      FenceSpans lines (j + 1) spans → FenceSpans lines start (⟨i, some j⟩ :: spans)

variable {lines : List Text} {start i j : Nat} {spans : List FenceSpan}

theorem fenceRunAt_iff {run : FenceLine} :
    FenceRunAt lines i run ↔ ∃ line, lines[i]? = some line ∧ FenceLine.ofLine? line = some run := by
  unfold FenceRunAt
  constructor
  · rintro ⟨hproper, hline⟩
    exact ⟨_, hline, FenceLine.ofLine?_written hproper⟩
  · rintro ⟨line, hline, hrun⟩
    obtain ⟨hproper, rfl⟩ := FenceLine.ofLine?_eq_some.1 hrun
    exact ⟨hproper, hline⟩

theorem FenceRunAt.lt {run : FenceLine} (h : FenceRunAt lines i run) : i < lines.length :=
  (List.getElem?_eq_some_iff.1 h.2).1

theorem closedByLine_opened_iff {opener : FenceLine} {line : Text} :
    (FenceState.opened opener).ClosedByLine line ↔ ∃ run, FenceLine.ofLine? line = some run ∧ opener.Closes run := by
  refine exists_congr fun run => and_congr_right fun _ => ?_
  rw [FenceState.closedBy_iff]
  simp [FenceState.opened, FenceLine.Closes, @eq_comm _ opener.marker]

/-! ## The search finds blocks in order -/

/-- A search from any place comes to an end: each block that it finds starts below the last one. -/
theorem exists_fenceSpans (lines : List Text) (start : Nat) : ∃ spans, FenceSpans lines start spans := by
  induction hn : lines.length - start using Nat.strong_induction_on generalizing start with
  | _ n ih =>
    rcases (runsFrom lines start).eq_empty_or_nonempty with hnone | hruns
    · exact ⟨[], .none hnone⟩
    · have hi := isLeast_csInf hruns
      generalize sInf (runsFrom lines start) = i at hi
      obtain ⟨opener, hopener⟩ := hi.1.2
      rcases (closersBelow lines i opener).eq_empty_or_nonempty with hopen | hclosers
      · exact ⟨_, .unclosed hi hopener hopen⟩
      · have hj := isLeast_csInf hclosers
        generalize sInf (closersBelow lines i opener) = j at hj
        obtain ⟨hij, run, hrun, -⟩ := id hj.1
        have hlow := hi.1.1
        have hhigh := hrun.lt
        obtain ⟨spans, hspans⟩ := ih (lines.length - (j + 1)) (by omega) (j + 1) rfl
        exact ⟨_, .closed hi hopener hj hspans⟩

/-- No block starts above the place where the search does. -/
theorem FenceSpans.le_opener (h : FenceSpans lines start spans) : ∀ b ∈ spans, start ≤ b.opener := by
  induction h with
  | none _ => simp
  | unclosed hi _ _ => simpa using hi.1.1
  | closed hi _ hj _ ih =>
    rintro b (_ | ⟨_, hb⟩)
    · exact hi.1.1
    · have := hi.1.1
      have := hj.1.1
      have := ih b hb
      omega

theorem FenceSpans.le_of_mem_fences (h : FenceSpans lines start spans) :
    ∀ k ∈ spans.flatMap FenceSpan.fences, start ≤ k := by
  induction h with
  | none _ => simp
  | unclosed hi _ _ => simpa [FenceSpan.fences] using hi.1.1
  | closed hi _ hj _ ih =>
    have hlow := hi.1.1
    have hbelow := hj.1.1
    intro k hk
    simp only [List.flatMap_cons, FenceSpan.fences, Option.toList_some, List.cons_append, List.nil_append,
      List.mem_cons] at hk
    rcases hk with rfl | rfl | hk
    · exact hlow
    · omega
    · have := ih k hk
      omega

/-- Openers and closers alternate down the document. -/
theorem FenceSpans.pairwise_fences (h : FenceSpans lines start spans) :
    (spans.flatMap FenceSpan.fences).Pairwise (· < ·) := by
  induction h with
  | none _ => simp
  | unclosed _ _ _ => simp [FenceSpan.fences]
  | closed _ _ hj hrest ih =>
    have hij := hj.1.1
    have hbelow := hrest.le_of_mem_fences
    simp only [List.flatMap_cons, FenceSpan.fences, Option.toList_some, List.cons_append, List.nil_append,
      List.pairwise_cons, List.mem_cons]
    refine ⟨?_, fun k hk => ?_, ih⟩
    · rintro k (rfl | hk)
      · exact hij
      · have := hbelow k hk
        omega
    · have := hbelow k hk
      omega

/-! ## The state of the scan at a place -/

/-- The state of the scan in front of the line at a place. -/
def stateAt (lines : List Text) (i : Nat) : FenceState := FenceState.outside.after (lines.take i)

theorem stateAt_succ {line : Text} (h : lines[i]? = some line) :
    stateAt lines (i + 1) = ((stateAt lines i).step line).1 := by
  unfold stateAt FenceState.after
  rw [List.take_add_one, h, List.foldl_append]
  rfl

/-- Lines that do not change the state leave it as it is. -/
theorem stateAt_of_steady {s : FenceState} (hs : stateAt lines start = s) (hi : start ≤ i)
    (hsteady : ∀ k line, start ≤ k → k < i → lines[k]? = some line → s.step line = (s, false)) :
    stateAt lines i = s := by
  induction i, hi using Nat.le_induction with
  | base => exact hs
  | succ i hi ih =>
    have hat := ih fun k line hk hki => hsteady k line hk (by omega)
    cases hline : lines[i]? with
    | none =>
      have hlen := List.getElem?_eq_none_iff.1 hline
      rw [← hat, stateAt, stateAt, List.take_of_length_le hlen, List.take_of_length_le (by omega)]
    | some line => rw [stateAt_succ hline, hat, hsteady i line hi (by omega) hline]

/-- Above the first fence run nothing opens a block. -/
theorem step_above_run {i k : Nat} {line : Text} (hi : i ∈ lowerBounds (runsFrom lines start)) (hk : start ≤ k)
    (hki : k < i) (hline : lines[k]? = some line) : FenceState.outside.step line = (.outside, false) := by
  refine FenceState.step_of_ofLine?_eq_none ?_
  cases hrun : FenceLine.ofLine? line with
  | none => rfl
  | some run =>
    have hmem : k ∈ runsFrom lines start := ⟨hk, run, fenceRunAt_iff.2 ⟨line, hline, hrun⟩⟩
    have := hi hmem
    omega

/-- A line that is not among those which close the block stays inside it. -/
theorem step_of_not_mem_closers {opener : FenceLine} {k : Nat} {line : Text}
    (hnot : k ∉ closersBelow lines i opener) (hik : i < k) (hline : lines[k]? = some line) :
    (FenceState.opened opener).step line = (.opened opener, false) := by
  refine FenceState.step_inside rfl fun hclosed => hnot ⟨hik, ?_⟩
  obtain ⟨run, hrun, hcloses⟩ := closedByLine_opened_iff.1 hclosed
  exact ⟨run, fenceRunAt_iff.2 ⟨line, hline, hrun⟩, hcloses⟩

/-- A fence run that the scan comes to outside all blocks opens one. -/
theorem stateAt_below_opener {opener : FenceLine} (hs : stateAt lines i = .outside)
    (hopener : FenceRunAt lines i opener) : stateAt lines (i + 1) = .opened opener := by
  obtain ⟨line, hline, hrun⟩ := fenceRunAt_iff.1 hopener
  rw [stateAt_succ hline, hs, FenceState.step_opening hrun rfl]

/-! ## What the scan finds at a place -/

/-- The scan takes the line at a place for a fence. -/
def HasFence (lines : List Text) (k : Nat) : Prop :=
  ∃ line, lines[k]? = some line ∧ ((stateAt lines k).step line).2 = true

/-- The scan takes the line at a place for code. -/
def HasCode (lines : List Text) (k : Nat) : Prop :=
  ∃ line, lines[k]? = some line ∧ ((stateAt lines k).step line).2 = false ∧ (stateAt lines k).isOpen = true

theorem role_eq_fence_iff_hasFence (lines : List Text) (k : Nat) :
    (classify lines)[k]?.map (·.role) = some .fence ↔ HasFence lines k := by
  unfold HasFence
  cases hline : lines[k]? with
  | none => simp [classify, getElem?_classifyFrom, hline]
  | some line =>
    rw [getElem?_classify hline, Option.map_some, Option.some.injEq, LineScan.finalRole_isFenced rfl,
      LineScan.role_eq_fence_iff, LineScan.fence_after]
    simp only [Option.some.injEq, exists_eq_left']
    rfl

theorem role_eq_code_iff_hasCode (lines : List Text) (k : Nat) :
    (classify lines)[k]?.map (·.role) = some .code ↔ HasCode lines k := by
  unfold HasCode
  cases hline : lines[k]? with
  | none => simp [classify, getElem?_classifyFrom, hline]
  | some line =>
    rw [getElem?_classify hline, Option.map_some, Option.some.injEq, LineScan.finalRole_isFenced rfl,
      LineScan.role_eq_code_iff, LineScan.fence_after]
    simp only [Option.some.injEq, exists_eq_left']
    rfl

section Places

variable {s : FenceState} {k : Nat} {opener : FenceLine}

/-- A line that leaves the state as it is is no fence, and it is code if a block is open. -/
theorem places_of_steady (hs : stateAt lines k = s) (h : ∀ line, lines[k]? = some line → s.step line = (s, false)) :
    ¬ HasFence lines k ∧ (HasCode lines k ↔ k < lines.length ∧ s.isOpen = true) := by
  unfold HasFence HasCode
  rw [hs]
  constructor
  · rintro ⟨line, hline, hfence⟩
    rw [h line hline] at hfence
    cases hfence
  · constructor
    · rintro ⟨line, hline, -, ho⟩
      exact ⟨(List.getElem?_eq_some_iff.1 hline).1, ho⟩
    · rintro ⟨hk, ho⟩
      have hline := List.getElem?_eq_getElem hk
      exact ⟨_, hline, by rw [h _ hline], ho⟩

theorem HasFence.not_hasCode (h : HasFence lines k) : ¬ HasCode lines k := by
  obtain ⟨line, hline, hfence⟩ := h
  rintro ⟨line', hline', hnot, -⟩
  rw [hline] at hline'
  cases hline'
  rw [hfence] at hnot
  cases hnot

/-- Above the first run stand neither fences nor code. -/
theorem places_above (hs : stateAt lines start = .outside) (hi : i ∈ lowerBounds (runsFrom lines start))
    (hk : start ≤ k) (hki : k < i) : ¬ HasFence lines k ∧ ¬ HasCode lines k := by
  have hat := stateAt_of_steady hs hk fun l line hl hlk => step_above_run hi hl (by omega)
  have hplaces := places_of_steady hat fun line hline => step_above_run hi hk hki hline
  exact ⟨hplaces.1, fun hcode => by cases (hplaces.2.1 hcode).2⟩

/-- Below the opening run, as far as nothing closes its block, every line is code. -/
theorem places_inside (hs : stateAt lines i = .outside) (hopener : FenceRunAt lines i opener) (hik : i < k)
    (hnot : ∀ l, i < l → l ≤ k → l ∉ closersBelow lines i opener) :
    ¬ HasFence lines k ∧ (HasCode lines k ↔ k < lines.length) := by
  have hat := stateAt_of_steady (stateAt_below_opener hs hopener) hik fun l line hl hlk =>
    step_of_not_mem_closers (hnot l hl (by omega)) hl
  have hplaces := places_of_steady hat fun line hline =>
    step_of_not_mem_closers (hnot k hik (le_refl k)) hik hline
  exact ⟨hplaces.1, by simpa [FenceState.opened] using hplaces.2⟩

theorem hasFence_opener (hs : stateAt lines i = .outside) (hopener : FenceRunAt lines i opener) :
    HasFence lines i := by
  obtain ⟨line, hline, hrun⟩ := fenceRunAt_iff.1 hopener
  exact ⟨line, hline, by rw [hs, FenceState.step_opening hrun rfl]⟩

/-- The first run that closes a block is a fence, and below it the scan starts anew. -/
theorem hasFence_closer (hs : stateAt lines i = .outside) (hopener : FenceRunAt lines i opener)
    (hj : IsLeast (closersBelow lines i opener) j) :
    HasFence lines j ∧ stateAt lines (j + 1) = .outside := by
  obtain ⟨⟨hij, run, hrun, hcloses⟩, hleast⟩ := hj
  obtain ⟨line, hline, hread⟩ := fenceRunAt_iff.1 hrun
  have hat : stateAt lines j = .opened opener :=
    stateAt_of_steady (stateAt_below_opener hs hopener) hij fun l line hl hlj =>
      step_of_not_mem_closers (fun hmem => by have := hleast hmem; omega) hl
  have hstep := FenceState.step_closing (s := .opened opener) rfl
    (closedByLine_opened_iff.2 ⟨run, hread, hcloses⟩)
  exact ⟨⟨line, hline, by rw [hat, hstep]⟩, by rw [stateAt_succ hline, hat, hstep]⟩

/-- Down to the end of the first block its two fences are the only ones, and code is what stands between
them. -/
theorem places_to_closer (hs : stateAt lines start = .outside) (hi : IsLeast (runsFrom lines start) i)
    (hopener : FenceRunAt lines i opener) (hj : IsLeast (closersBelow lines i opener) j) (hk : start ≤ k)
    (hkj : k ≤ j) :
    (HasFence lines k ↔ k = i ∨ k = j) ∧ (HasCode lines k ↔ k < lines.length ∧ i < k ∧ k < j) := by
  have hat := stateAt_of_steady hs hi.1.1 fun l line hl hli => step_above_run hi.2 hl hli
  have hij := hj.1.1
  rcases lt_trichotomy k i with hki | rfl | hik
  · have hnot := places_above hs hi.2 hk hki
    exact ⟨iff_of_false hnot.1 (by omega), iff_of_false hnot.2 (by omega)⟩
  · have hfence := hasFence_opener hat hopener
    exact ⟨iff_of_true hfence (.inl rfl), iff_of_false hfence.not_hasCode (by omega)⟩
  · rcases Nat.lt_or_eq_of_le hkj with hkj | rfl
    · have hinside := places_inside hat hopener hik fun l _ hlk hmem => by have := hj.2 hmem; omega
      exact ⟨iff_of_false hinside.1 (by omega), hinside.2.trans (by simp [hik, hkj])⟩
    · have hcloser := (hasFence_closer hat hopener hj).1
      exact ⟨iff_of_true hcloser (.inr rfl), iff_of_false hcloser.not_hasCode (by omega)⟩

/-- From a place on where no block is open, the scan finds what the search finds. -/
theorem FenceSpans.places (h : FenceSpans lines start spans) (hs : stateAt lines start = .outside) (hk : start ≤ k) :
    (HasFence lines k ↔ k ∈ spans.flatMap FenceSpan.fences) ∧
      (HasCode lines k ↔ k < lines.length ∧ ∃ b ∈ spans, b.Inside k) := by
  induction h with
  | @none start hnone =>
    have hnot := @places_above lines start (k + 1) k hs (by simp [hnone]) hk (by omega)
    simp [hnot]
  | @unclosed start i opener hi hopener hopen =>
    have hat := stateAt_of_steady hs hi.1.1 fun l line hl hli => step_above_run hi.2 hl hli
    rcases lt_trichotomy k i with hki | rfl | hik
    · have hnot := places_above hs hi.2 hk hki
      simp [hnot, FenceSpan.fences, FenceSpan.Inside]
      omega
    · have hfence := hasFence_opener hat hopener
      simp [hfence, hfence.not_hasCode, FenceSpan.fences, FenceSpan.Inside]
    · have hinside := places_inside hat hopener hik fun l _ _ => by simp [hopen]
      simp [hinside, FenceSpan.fences, FenceSpan.Inside]
      omega
  | @closed start i j opener spans hi hopener hj hrest ih =>
    have hat := stateAt_of_steady hs hi.1.1 fun l line hl hli => step_above_run hi.2 hl hli
    have hij := hj.1.1
    have hmem : k ∈ (⟨i, some j⟩ :: spans).flatMap FenceSpan.fences ↔
        (k = i ∨ k = j) ∨ k ∈ spans.flatMap FenceSpan.fences := by
      simp [FenceSpan.fences, or_assoc]
    have hcode : (∃ b ∈ (⟨i, some j⟩ :: spans : List FenceSpan), b.Inside k) ↔
        (i < k ∧ k < j) ∨ ∃ b ∈ spans, b.Inside k := by
      simp [FenceSpan.Inside]
    rw [hmem, hcode]
    rcases Nat.lt_or_ge j k with hjk | hkj
    · have hbelow := ih (hasFence_closer hat hopener hj).2 hjk
      rwa [or_iff_right (by omega), or_iff_right (by omega)]
    · -- the blocks further down do not reach up to this place
      have hfences : k ∉ spans.flatMap FenceSpan.fences := fun hmem => by
        have := hrest.le_of_mem_fences k hmem
        omega
      have hinside : ¬ ∃ b ∈ spans, b.Inside k := by
        rintro ⟨b, hb, hlow, -⟩
        have := hrest.le_opener b hb
        omega
      rw [or_iff_left hfences, or_iff_left hinside]
      exact places_to_closer hs hi hopener hj hk hkj

end Places

/-! ## The whole document -/

/-- The fences of a document are the openers and closers that a search finds, one below the other: each
block opens at the first fence run below the block before it, and is closed by the first run below its
opener that is of the same character, at least as long and at least as deep; the last one may stay open.
Code is what stands between the two fences of a block, or below the fence of an open one. -/
theorem fenced_lines_exact (lines : List Text) :
    ∃ spans, FenceSpans lines 0 spans ∧ (spans.flatMap FenceSpan.fences).Pairwise (· < ·) ∧
      ∀ i, ((classify lines)[i]?.map (·.role) = some .fence ↔ i ∈ spans.flatMap FenceSpan.fences) ∧
        ((classify lines)[i]?.map (·.role) = some .code ↔ i < lines.length ∧ ∃ b ∈ spans, b.Inside i) := by
  obtain ⟨spans, hspans⟩ := exists_fenceSpans lines 0
  refine ⟨spans, hspans, hspans.pairwise_fences, fun i => ?_⟩
  rw [role_eq_fence_iff_hasFence, role_eq_code_iff_hasCode]
  exact hspans.places rfl (Nat.zero_le i)

end MarkdownStyle
