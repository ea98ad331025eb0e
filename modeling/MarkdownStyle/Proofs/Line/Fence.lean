/-
One step of the fence scan. Outside every block each fence run opens one; inside a block a line
either closes it or leaves the scan as it is.
-/
import MarkdownStyle.Line.Fence
import Mathlib.Tactic

namespace MarkdownStyle.FenceState

theorem closedBy_iff {s : FenceState} {marker : Char} {length indent : Nat} :
    s.closedBy marker length indent = true ↔
      s.isOpen = true ∧ s.marker = some marker ∧ s.length ≤ length ∧ s.indent ≤ indent := by
  simp [closedBy, and_assoc]

/-- Whether a line closes the block that is open. -/
def ClosedByLine (s : FenceState) (line : Text) : Prop :=
  ∃ run, FenceLine.ofLine? line = some run ∧ s.closedBy run.marker run.length run.indent.length = true

instance (s : FenceState) (line : Text) : Decidable (s.ClosedByLine line) :=
  decidable_of_iff (∃ run ∈ FenceLine.ofLine? line, s.closedBy run.marker run.length run.indent.length = true) Iff.rfl

/-- The state of a scan after some lines. -/
def after (s : FenceState) (lines : List Text) : FenceState := lines.foldl (fun s line => (s.step line).1) s

@[simp] theorem after_nil (s : FenceState) : s.after [] = s := rfl

@[simp] theorem after_cons (s : FenceState) (line : Text) (rest : List Text) :
    s.after (line :: rest) = (s.step line).1.after rest := rfl

/-- Everything that a line can do to the scan. -/
theorem step_cases (s : FenceState) (line : Text) :
    (∃ run, FenceLine.ofLine? line = some run ∧ s.isOpen = false ∧ s.step line = (opened run, true)) ∨
      (s.isOpen = true ∧ s.ClosedByLine line ∧ s.step line = (outside, true)) ∨
      (s.isOpen = false → FenceLine.ofLine? line = none) ∧ ¬ s.ClosedByLine line ∧ s.step line = (s, false) := by
  unfold step ClosedByLine
  rcases FenceLine.ofLine? line with _ | run
  · exact .inr (.inr ⟨fun _ => rfl, by simp, rfl⟩)
  · rcases ho : s.isOpen
    · exact .inl ⟨run, rfl, rfl, rfl⟩
    · by_cases hc : s.closedBy run.marker run.length run.indent.length = true
      · exact .inr (.inl ⟨rfl, ⟨run, rfl, hc⟩, by simp [hc]⟩)
      · exact .inr (.inr ⟨by simp, by simpa using hc, by simp [hc]⟩)

theorem step_opening {s : FenceState} {line : Text} {run : FenceLine} (hrun : FenceLine.ofLine? line = some run)
    (ho : s.isOpen = false) : s.step line = (opened run, true) := by
  unfold step
  rw [hrun]
  simp [ho]

theorem step_closing {s : FenceState} {line : Text} (ho : s.isOpen = true) (hc : s.ClosedByLine line) :
    s.step line = (outside, true) := by
  obtain ⟨run, hrun, hc⟩ := hc
  unfold step
  rw [hrun]
  simp [ho, hc]

theorem step_of_ofLine?_eq_none {s : FenceState} {line : Text} (h : FenceLine.ofLine? line = none) :
    s.step line = (s, false) := by
  unfold step
  rw [h]

theorem step_inside {s : FenceState} {line : Text} (ho : s.isOpen = true) (hc : ¬ s.ClosedByLine line) :
    s.step line = (s, false) := by
  rcases s.step_cases line with ⟨run, -, hclosed, -⟩ | ⟨-, hclosed, -⟩ | ⟨-, -, hs⟩
  · rw [ho] at hclosed; cases hclosed
  · exact absurd hclosed hc
  · exact hs

/-- A line that is no fence leaves the scan as it is. -/
theorem step_of_not_fence {s : FenceState} {line : Text} (h : (s.step line).2 = false) :
    s.step line = (s, false) := by
  rcases s.step_cases line with ⟨run, -, -, hs⟩ | ⟨-, -, hs⟩ | ⟨-, -, hs⟩
  · rw [hs] at h; cases h
  · rw [hs] at h; cases h
  · exact hs

theorem step_of_open {s : FenceState} {line : Text} (ho : s.isOpen = true) :
    (s.step line).2 = true ↔ s.ClosedByLine line := by
  rcases s.step_cases line with ⟨run, -, hc, hs⟩ | ⟨-, hc, hs⟩ | ⟨-, hc, hs⟩
  · rw [ho] at hc; cases hc
  · simp [hs, hc]
  · simp [hs, hc]

/-- Fences, and nothing else, open and close blocks. -/
theorem isOpen_step (s : FenceState) (line : Text) :
    (s.step line).1.isOpen = (s.isOpen ^^ (s.step line).2) := by
  rcases s.step_cases line with ⟨run, -, hc, hs⟩ | ⟨ho, -, hs⟩ | ⟨-, -, hs⟩
  · rw [hs, hc]; rfl
  · rw [hs, ho]; rfl
  · rw [hs]; simp

theorem step_of_closed {s : FenceState} {line : Text} (ho : s.isOpen = false) :
    (s.step line).2 = true ↔ ∃ run, FenceLine.ofLine? line = some run := by
  rcases s.step_cases line with ⟨run, hr, -, hs⟩ | ⟨hc, -, hs⟩ | ⟨hr, -, hs⟩
  · simp [hs, hr]
  · rw [ho] at hc; cases hc
  · simp [hs, hr ho]

theorem step_outside_or_open {s : FenceState} (h : s = outside ∨ s.isOpen = true) (line : Text) :
    (s.step line).1 = outside ∨ (s.step line).1.isOpen = true := by
  rcases s.step_cases line with ⟨run, -, -, hs⟩ | ⟨-, -, hs⟩ | ⟨-, -, hs⟩
  · exact .inr (by rw [hs]; rfl)
  · exact .inl (by rw [hs])
  · rw [hs]
    exact h

/-- A scan that was outside every block is in a block, or as if it had never been in one. -/
theorem after_outside_or_open {s : FenceState} (h : s = outside ∨ s.isOpen = true) (lines : List Text) :
    s.after lines = outside ∨ (s.after lines).isOpen = true := by
  induction lines generalizing s with
  | nil => exact h
  | cons line rest ih => exact ih (step_outside_or_open h line)

end MarkdownStyle.FenceState
