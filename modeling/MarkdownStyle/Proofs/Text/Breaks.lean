/-
One line end for all. With every line end as a line feed a text has the same lines, and lines that are
written like a text become lines that are written like it with its line ends unified. No carriage return
is left, so only texts without one stay as they are.
-/
import MarkdownStyle.Proofs.Text.Respell

namespace MarkdownStyle.Text

/-! ## Unified texts -/

theorem unifyBreaks_cons {c : Char} (h : c ≠ '\r') (rest : Text) : unifyBreaks (c :: rest) = c :: unifyBreaks rest :=
  unifyBreaks.eq_4 c rest (fun _ hr _ => h hr) h

theorem not_mem_unifyBreaks (t : Text) : '\r' ∉ unifyBreaks t := by
  induction t using unifyBreaks.induct with
  | case1 => exact List.not_mem_nil
  | case2 rest ih => exact List.not_mem_cons_of_ne_of_not_mem (by decide) ih
  | case3 rest hr ih =>
    rw [unifyBreaks.eq_3 rest hr]
    exact List.not_mem_cons_of_ne_of_not_mem (by decide) ih
  | case4 c rest _ hc ih =>
    rw [unifyBreaks_cons hc]
    exact List.not_mem_cons_of_ne_of_not_mem (Ne.symm hc) ih

theorem unifyBreaks_eq_self_iff {t : Text} : unifyBreaks t = t ↔ '\r' ∉ t := by
  constructor
  · intro h
    rw [← h]
    exact not_mem_unifyBreaks t
  · intro h
    induction t with
    | nil => rfl
    | cons c rest ih =>
      obtain ⟨hc, hrest⟩ := not_or.1 (mt List.mem_cons.2 h)
      rw [unifyBreaks_cons (Ne.symm hc), ih hrest]

theorem withLineEnd_lineFeed (t : Text) : withLineEnd ['\n'] t = unifyBreaks t := by
  induction t using withLineEnd.induct with
  | case1 => rfl
  | case2 rest ih => exact congrArg (List.cons '\n') ih
  | case3 rest hr ih =>
    rw [withLineEnd.eq_3 _ rest hr, unifyBreaks.eq_3 rest hr]
    exact congrArg (List.cons '\n') ih
  | case4 rest ih => exact congrArg (List.cons '\n') ih
  | case5 c rest hp hr hn ih => rw [withLineEnd.eq_5 _ c rest hp hr hn, unifyBreaks_cons hr, ih]

/-- Unifying the line ends leaves the lines as they are. -/
theorem lines_unifyBreaks (t : Text) : lines (unifyBreaks t) = lines t := by
  induction t using unifyBreaks.induct with
  | case1 => rfl
  | case2 rest ih => exact congrArg (List.cons []) ih
  | case3 rest hr ih =>
    rw [unifyBreaks.eq_3 rest hr, lines.eq_3 rest hr]
    exact congrArg (List.cons []) ih
  | case4 c rest _ hc ih =>
    rw [unifyBreaks_cons hc]
    by_cases hn : c = '\n'
    · rw [hn]
      exact congrArg (List.cons []) ih
    · have hbreak : isBreak c = false := by simpa [isBreak] using ⟨hn, hc⟩
      rw [lines_cons_of_not_isBreak hbreak, lines_cons_of_not_isBreak hbreak, ih]

theorem endsWithBreak_unifyBreaks (t : Text) : endsWithBreak (unifyBreaks t) = endsWithBreak t := by
  rw [← withLineEnd_lineFeed]
  exact endsWithBreak_withLineEnd (by simp) (by simp [isBreak]) t

/-! ## Paired line ends -/

theorem mem_of_hasPairedBreak {t : Text} (h : hasPairedBreak t = true) : '\r' ∈ t := by
  induction t using hasPairedBreak.induct with
  | case1 rest => exact List.mem_cons_self ..
  | case2 c rest hne ih =>
    rw [hasPairedBreak.eq_2 c rest hne] at h
    exact List.mem_cons_of_mem _ (ih h)
  | case3 => cases h

theorem lineEnd_unifyBreaks (t : Text) : lineEnd (unifyBreaks t) = ['\n'] :=
  if_neg (mt mem_of_hasPairedBreak (not_mem_unifyBreaks t))

/-- A text without a line end inside or at its end has none. -/
theorem noBreak_of_length_lines_le {t : Text} (hl : (lines t).length ≤ 1)
    (he : endsWithBreak t = false) : NoBreak t := by
  generalize lines t = parts, split_lines t = hs at hl
  induction hs with
  | nil => exact noBreak_nil
  | @stop stop rest parts hne hb hs _ =>
    have hparts : parts = [] := List.length_eq_zero_iff.1 (by simpa using hl)
    rw [hs.eq_nil_iff.2 hparts, List.append_nil, endsWithBreak_of_forall hne hb] at he
    cases he
  | last hc => exact noBreak_cons.2 ⟨hc, noBreak_nil⟩
  | @char c rest line more hc hs ih =>
    have hrest : rest ≠ [] := mt hs.eq_nil_iff.1 (List.cons_ne_nil line more)
    rw [endsWithBreak_cons c hrest] at he
    exact noBreak_cons.2 ⟨hc, ih he hl⟩

theorem two_le_length_lines {t : Text} (h : hasPairedBreak t = true) (he : endsWithBreak t = false) :
    2 ≤ (lines t).length := by
  by_contra hlt
  have hr := noBreak_of_length_lines_le (by omega) he '\r' (mem_of_hasPairedBreak h)
  cases hr

/-! ## Written lines -/

theorem unifyBreaks_append {line : Text} (h : NoBreak line) (rest : Text) :
    unifyBreaks (line ++ rest) = line ++ unifyBreaks rest := by
  induction line with
  | nil => rfl
  | cons c line ih =>
    obtain ⟨hc, hline⟩ := noBreak_cons.1 h
    have hne : c ≠ '\r' := by
      rintro rfl
      cases hc
    rw [List.cons_append, unifyBreaks_cons hne, ih hline, List.cons_append]

theorem unifyBreaks_lineEnd (like rest : Text) : unifyBreaks (lineEnd like ++ rest) = '\n' :: unifyBreaks rest := by
  unfold lineEnd
  split <;> rfl

/-- Unifying the line ends of written lines is writing them with unified line ends. -/
theorem unifyBreaks_writeLines {parts : List Text} (like : Text) (h : ∀ line ∈ parts, NoBreak line) :
    unifyBreaks (writeLines parts like) = writeLines parts (unifyBreaks like) := by
  have hclose : unifyBreaks (if endsWithBreak like then lineEnd like else []) =
      if endsWithBreak like then ['\n'] else [] := by
    split
    · have := unifyBreaks_lineEnd like []
      rwa [List.append_nil] at this
    · rfl
  unfold writeLines
  rw [endsWithBreak_unifyBreaks, lineEnd_unifyBreaks]
  induction parts with
  | nil => exact hclose
  | cons line rest ih =>
    obtain ⟨hline, hrest⟩ := List.forall_mem_cons.1 h
    rcases rest with _ | ⟨next, more⟩
    · rw [join_singleton, join_singleton, unifyBreaks_append hline, hclose]
    · rw [join_cons_cons, join_cons_cons, List.append_assoc, unifyBreaks_append hline, List.append_assoc,
        unifyBreaks_lineEnd, ih hrest]
      simp

/-- A carriage return is written exactly if the line ends are pairs and a line is ended. -/
theorem mem_writeLines_iff {parts : List Text} {like : Text} (h : ∀ line ∈ parts, NoBreak line) :
    '\r' ∈ writeLines parts like ↔ hasPairedBreak like = true ∧ (2 ≤ parts.length ∨ endsWithBreak like = true) := by
  have hend : '\r' ∈ lineEnd like ↔ hasPairedBreak like = true := by
    unfold lineEnd
    split <;> simp_all
  have hnone : ∀ line ∈ parts, '\r' ∉ line := fun line hline hmem => by
    have := h line hline '\r' hmem
    cases this
  have hjoin : '\r' ∈ join (lineEnd like) parts ↔ hasPairedBreak like = true ∧ 2 ≤ parts.length := by
    clear h
    induction parts with
    | nil => simp [join]
    | cons line rest ih =>
      obtain ⟨hline, hrest⟩ := List.forall_mem_cons.1 hnone
      rcases rest with _ | ⟨next, more⟩
      · rw [join_singleton]
        simp [hline]
      · rw [join_cons_cons, List.mem_append, List.mem_append, ih hrest, hend]
        simp [hline]
        tauto
  unfold writeLines
  rw [List.mem_append, hjoin]
  cases endsWithBreak like with
  | false => simp
  | true =>
    rw [if_pos rfl, hend]
    tauto

end MarkdownStyle.Text
