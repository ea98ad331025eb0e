/-
Rows of markers. A thematic break is a row of at least three dashes, asterisks or underscores with at
most one space between neighbours; the reader that takes markers off a line finds exactly such rows, and
they are what tells breaks from plain text.
-/
import MarkdownStyle.Proofs.Line.Form

namespace MarkdownStyle

/-- So many copies of a marker with at most one space between neighbours. -/
inductive MarkerRun (marker : Char) : Nat → Text → Prop
  | single : MarkerRun marker 1 [marker]
  | next {count : Nat} {run : Text} : MarkerRun marker count run → MarkerRun marker (count + 1) (marker :: run)
  | spaced {count : Nat} {run : Text} :
    MarkerRun marker count run → MarkerRun marker (count + 1) (marker :: ' ' :: run)

/-- A text of at least so many copies of a marker with at most one space between neighbours, followed by
whitespace only. -/
def MarkerRow (marker : Char) (least : Nat) (t : Text) : Prop :=
  ∃ count run tail, MarkerRun marker count run ∧ least ≤ count ∧ Text.isAllBlank tail = true ∧ t = run ++ tail

variable {marker : Char} {count least : Nat} {run t : Text}

theorem MarkerRun.eq_cons (h : MarkerRun marker count run) : ∃ front, run = marker :: front := by
  cases h with
  | single => exact ⟨_, rfl⟩
  | next _ => exact ⟨_, rfl⟩
  | spaced _ => exact ⟨_, rfl⟩

theorem MarkerRow.head?_eq (h : MarkerRow marker least t) : t.head? = some marker := by
  obtain ⟨count, run, tail, hrun, -, -, rfl⟩ := h
  obtain ⟨front, rfl⟩ := hrun.eq_cons
  rfl

/-- Behind the first marker the row goes on at once, or after one space. -/
theorem markerRow_cons_iff (hl : 1 ≤ least) :
    MarkerRow marker (least + 1) (marker :: t) ↔
      MarkerRow marker least t ∨ ∃ rest, t = ' ' :: rest ∧ MarkerRow marker least rest := by
  constructor
  · rintro ⟨count, run, tail, hrun, hcount, htail, ht⟩
    cases hrun with
    | single => omega
    | next hrun =>
      rw [List.cons_append, List.cons.injEq] at ht
      exact .inl ⟨_, _, tail, hrun, by omega, htail, ht.2⟩
    | spaced hrun =>
      rw [List.cons_append, List.cons_append, List.cons.injEq] at ht
      exact .inr ⟨_, ht.2, _, _, tail, hrun, by omega, htail, rfl⟩
  · rintro (⟨count, run, tail, hrun, hcount, htail, rfl⟩ | ⟨_, rfl, count, run, tail, hrun, hcount, htail, rfl⟩)
    · exact ⟨_, _, tail, hrun.next, by omega, htail, rfl⟩
    · exact ⟨_, _, tail, hrun.spaced, by omega, htail, rfl⟩

/-! ## Taking markers off a text -/

/-- What is taken off, behind a marker in front, is a run of markers. -/
theorem exists_run_of_takeMarkers (marker : Char) (t : Text) :
    ∃ front, t = front ++ (takeMarkers marker t).2 ∧
      MarkerRun marker ((takeMarkers marker t).1 + 1) (marker :: front) := by
  fun_induction takeMarkers marker t with
  | case1 => exact ⟨[], rfl, .single⟩
  | case2 c hc => exact ⟨[c], rfl, by rw [beq_iff_eq.1 hc]; exact .next .single⟩
  | case3 c hc => exact ⟨[], rfl, .single⟩
  | case4 c d rest hc n left hrest ih =>
    obtain ⟨front, hfront, hrun⟩ := ih
    rw [hrest] at hfront hrun
    exact ⟨c :: front, by rw [hfront]; rfl, by rw [beq_iff_eq.1 hc]; exact hrun.next⟩
  | case5 c d rest _ hcd n left hrest ih =>
    obtain ⟨front, hfront, hrun⟩ := ih
    simp only [Bool.and_eq_true, beq_iff_eq] at hcd
    rw [hrest] at hfront hrun
    exact ⟨c :: d :: front, by rw [hfront]; rfl, by rw [hcd.1, hcd.2]; exact hrun.spaced⟩
  | case6 c d rest _ _ => exact ⟨[], rfl, .single⟩

theorem takeMarkers_marker (marker : Char) (t : Text) :
    takeMarkers marker (marker :: t) = ((takeMarkers marker t).1 + 1, (takeMarkers marker t).2) := by
  cases t <;> simp [takeMarkers]

theorem takeMarkers_space (hm : Text.isBlank marker = false) (t : Text) :
    takeMarkers marker (' ' :: marker :: t) = ((takeMarkers marker t).1 + 1, (takeMarkers marker t).2) := by
  have hne : ' ' ≠ marker := by
    rintro rfl
    cases hm
  simp [takeMarkers, hne]

/-- From whitespace nothing is taken off. -/
theorem takeMarkers_of_blank (hm : Text.isBlank marker = false) (ht : Text.isAllBlank t = true) :
    takeMarkers marker t = (0, t) := by
  have hne : ∀ c ∈ t, c ≠ marker := by
    rintro c hc rfl
    rw [List.all_eq_true.1 ht c hc] at hm
    cases hm
  rcases t with _ | ⟨c, _ | ⟨d, rest⟩⟩
  · rfl
  · simp [takeMarkers, hne c]
  · simp [takeMarkers, hne c, hne d]

/-- Of a run with whitespace behind it everything but the whitespace is taken off. -/
theorem MarkerRun.takeMarkers_eq (hm : Text.isBlank marker = false) (h : MarkerRun marker count run) {tail : Text}
    (ht : Text.isAllBlank tail = true) :
    takeMarkers marker (run ++ tail) = (count, tail) := by
  induction h with
  | single =>
    rw [List.singleton_append, takeMarkers_marker, takeMarkers_of_blank hm ht]
  | next hrun ih =>
    rw [List.cons_append, takeMarkers_marker, ih]
  | spaced hrun ih =>
    obtain ⟨front, rfl⟩ := hrun.eq_cons
    rw [List.cons_append, takeMarkers_marker, List.cons_append, List.cons_append, takeMarkers_space hm]
    rw [List.cons_append, takeMarkers_marker] at ih
    rw [ih]

/-- A text is a row exactly if enough markers can be taken off it and whitespace remains. -/
theorem markerRow_iff (hm : Text.isBlank marker = false) :
    MarkerRow marker (least + 1) (marker :: t) ↔
      least ≤ (takeMarkers marker t).1 ∧ Text.isAllBlank (takeMarkers marker t).2 = true := by
  constructor
  · rintro ⟨count, run, tail, hrun, hcount, htail, ht⟩
    have htake := hrun.takeMarkers_eq hm htail
    rw [← ht, takeMarkers_marker, Prod.mk.injEq] at htake
    rw [htake.2]
    exact ⟨by omega, htail⟩
  · rintro ⟨hcount, htail⟩
    obtain ⟨front, hfront, hrun⟩ := exists_run_of_takeMarkers marker t
    exact ⟨_, _, _, hrun, by omega, htail, congrArg (marker :: ·) hfront⟩

/-- A thematic break is a row of three dashes, asterisks or underscores, or more, with whitespace around it. -/
theorem isThematicBreak_iff {line : Text} :
    isThematicBreak line = true ↔
      ∃ marker, (marker = '-' ∨ marker = '*' ∨ marker = '_') ∧ MarkerRow marker 3 (Text.trimLeft line) := by
  have hrow : ∀ marker rest, (marker = '-' ∨ marker = '*' ∨ marker = '_') →
      (MarkerRow marker 3 (marker :: rest) ↔
        2 ≤ (takeMarkers marker rest).1 ∧ Text.isAllBlank (takeMarkers marker rest).2 = true) := by
    rintro marker rest hmarker
    refine markerRow_iff ?_
    rcases hmarker with rfl | rfl | rfl <;> decide
  unfold isThematicBreak
  constructor
  · intro h
    split at h
    · cases h
    · rename_i marker rest hline
      simp only [Bool.and_eq_true, Bool.or_eq_true, beq_iff_eq, decide_eq_true_eq, or_assoc] at h
      exact ⟨marker, h.1, (hline ▸ (hrow marker rest h.1).2 h.2)⟩
  · rintro ⟨marker, hmarker, hline⟩
    obtain ⟨rest, hrest⟩ := List.head?_eq_some_iff.1 hline.head?_eq
    rw [hrest] at hline ⊢
    simpa [or_assoc, hmarker] using (hrow marker rest hmarker).1 hline

/-! ## Breaks among classified lines -/

/-- Plain text is no thematic break, and what is taken for one is one. -/
theorem LineScan.Reads.isBreak_iff {s : LineScan} {line : Text} {role : LineRole} (h : s.Reads line role)
    (hr : role = .text ∨ role = .thematicBreak) : isThematicBreak line = true ↔ role = .thematicBreak := by
  rcases hr with rfl | rfl
  · cases h with
    | shape hshape =>
      cases hshape with
      | text _ _ hnot => simp [hnot]
  · cases h with
    | shape hshape =>
      cases hshape with
      | thematicBreak _ _ hbreak => simp [hbreak]

theorem isThematicBreak_iff_of_mem_classify {lines : List Text} {line : Line} (hm : line ∈ classify lines)
    (hr : line.role = .text ∨ line.role = .thematicBreak) :
    isThematicBreak line.text = true ↔ line.role = .thematicBreak := by
  obtain ⟨i, hi⟩ := List.mem_iff_getElem?.1 hm
  have hplain : line.role.isUnderlined = false := by rcases hr with h | h <;> rw [h] <;> rfl
  have hrole := (LineScan.role_of_finalRole (getElem?_classify_eq_some.1 hi).2.2.symm hplain).1
  have hreads := (LineScan.start.after (lines.take i)).reads line.text
  rw [hrole] at hreads
  exact hreads.isBreak_iff hr

end MarkdownStyle
