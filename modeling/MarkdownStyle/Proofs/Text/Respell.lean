/-
Splitting and writing undo each other. The lines of a text written like the text itself are the text
with all its line ends spelled alike, and lines that each get a line end of any one spelling are read
back. A carriage return at the end of a line is safe only because no line starts with a line feed.
-/
import MarkdownStyle.Proofs.Text.Lines

namespace MarkdownStyle.Text

/-- The text with each line end spelled as `stop`. A carriage return with a line feed behind it is one
line end. -/
def withLineEnd (stop : Text) : Text → Text
  | [] => []
  | '\r' :: '\n' :: rest => stop ++ withLineEnd stop rest
  | '\r' :: rest => stop ++ withLineEnd stop rest
  | '\n' :: rest => stop ++ withLineEnd stop rest
  | c :: rest => c :: withLineEnd stop rest

/-- The spellings of a line end. -/
def lineEnds : List Text := [['\n'], ['\r', '\n'], ['\r']]

theorem withLineEnd_cons {c : Char} (h : isBreak c = false) (stop rest : Text) :
    withLineEnd stop (c :: rest) = c :: withLineEnd stop rest := by
  have hc : c ≠ '\n' ∧ c ≠ '\r' := by simpa [isBreak] using h
  exact withLineEnd.eq_5 stop c rest (fun _ hr _ => hc.2 hr) hc.2 hc.1

theorem hasPairedBreak_iff (t : Text) : hasPairedBreak t = true ↔ ['\r', '\n'] <:+: t := by
  induction t using hasPairedBreak.induct with
  | case1 rest => exact iff_of_true rfl ⟨[], rest, rfl⟩
  | case2 c rest hne ih =>
    rw [hasPairedBreak.eq_2 c rest hne, ih, List.infix_cons_iff, or_iff_right]
    rintro ⟨more, hmore⟩
    obtain ⟨hc, hrest⟩ := List.cons.inj hmore
    exact hne more hc.symm hrest.symm
  | case3 => exact iff_of_false Bool.false_ne_true fun h => by simpa using h.length_le

theorem lineEnd_eq (t : Text) : lineEnd t = if ['\r', '\n'] <:+: t then ['\r', '\n'] else ['\n'] :=
  if_congr (hasPairedBreak_iff t) rfl rfl

theorem lineEnd_ne_nil (t : Text) : lineEnd t ≠ [] := by
  unfold lineEnd
  split <;> exact List.cons_ne_nil _ _

/-! ## Closed texts -/

theorem withLineEnd_eq_nil_iff {stop : Text} (h : stop ≠ []) (t : Text) : withLineEnd stop t = [] ↔ t = [] := by
  induction t using withLineEnd.induct with
  | case1 => exact Iff.rfl
  | case2 rest _ => simp [withLineEnd, h]
  | case3 rest hr _ => simp [withLineEnd.eq_3 stop rest hr, h]
  | case4 rest _ => simp [withLineEnd, h]
  | case5 c rest hp hr hn _ => simp [withLineEnd.eq_5 stop c rest hp hr hn]

/-- Spelling the line ends in another way keeps a text closed or open. -/
theorem endsWithBreak_withLineEnd {stop : Text} (h : stop ≠ []) (hb : ∀ c ∈ stop, isBreak c = true) (t : Text) :
    endsWithBreak (withLineEnd stop t) = endsWithBreak t := by
  -- the last character decides, so each step either reaches it or passes on to the rest
  have hstep : ∀ (new old rest : Text), new ≠ [] → old ≠ [] → endsWithBreak new = endsWithBreak old →
      endsWithBreak (withLineEnd stop rest) = endsWithBreak rest →
        endsWithBreak (new ++ withLineEnd stop rest) = endsWithBreak (old ++ rest) := by
    intro new old rest hnew hold hlast ih
    rcases eq_or_ne rest [] with rfl | hrest
    · rw [withLineEnd, List.append_nil, List.append_nil]
      exact hlast
    · rw [endsWithBreak_append old hrest, ← ih]
      exact endsWithBreak_append new (mt (withLineEnd_eq_nil_iff h rest).1 hrest)
  have hstop : endsWithBreak stop = true := endsWithBreak_of_forall h hb
  induction t using withLineEnd.induct with
  | case1 => rfl
  | case2 rest ih => exact hstep stop ['\r', '\n'] rest h (by simp) hstop ih
  | case3 rest hr ih =>
    rw [withLineEnd.eq_3 stop rest hr]
    exact hstep stop ['\r'] rest h (by simp) hstop ih
  | case4 rest ih => exact hstep stop ['\n'] rest h (by simp) hstop ih
  | case5 c rest hp hr hn ih =>
    rw [withLineEnd.eq_5 stop c rest hp hr hn]
    exact hstep [c] [c] rest (by simp) (by simp) rfl ih

/-! ## Written lines -/

theorem writeLines_push (c : Char) (line : Text) (more : List Text) (like : Text) :
    writeLines ((c :: line) :: more) like = c :: writeLines (line :: more) like := by
  unfold writeLines
  rcases more with _ | ⟨next, more⟩
  · rw [join_singleton, join_singleton, List.cons_append]
  · rw [join_cons_cons, join_cons_cons, List.cons_append, List.cons_append]

theorem writeLines_nil_cons {parts : List Text} (h : parts ≠ []) (like : Text) :
    writeLines ([] :: parts) like = lineEnd like ++ writeLines parts like := by
  obtain ⟨next, more, rfl⟩ := List.exists_cons_of_ne_nil h
  unfold writeLines
  rw [join_cons_cons, List.nil_append, List.append_assoc]

/-- Behind a line end stand the lines of the rest, or nothing, and then the end closes the text. -/
theorem writeLines_stop (stop : Text) {rest like : Text} (hne : stop ≠ []) (hb : ∀ c ∈ stop, isBreak c = true)
    (hlike : endsWithBreak like = endsWithBreak (stop ++ rest))
    (ih : endsWithBreak like = endsWithBreak rest → writeLines (lines rest) like = withLineEnd (lineEnd like) rest) :
    writeLines ([] :: lines rest) like = lineEnd like ++ withLineEnd (lineEnd like) rest := by
  rcases eq_or_ne rest [] with rfl | hrest
  · rw [List.append_nil, endsWithBreak_of_forall hne hb] at hlike
    rw [lines, withLineEnd, List.append_nil, writeLines, join_singleton, hlike, if_pos rfl, List.nil_append]
  · have hlines : lines rest ≠ [] := mt (split_lines rest).eq_nil_iff.2 hrest
    rw [endsWithBreak_append stop hrest] at hlike
    rw [writeLines_nil_cons hlines, ih hlike]

/-- The lines of a text are written as the text with its line ends spelled alike, where the text that
they are written like is closed as the text itself is. -/
theorem writeLines_lines {t like : Text} (h : endsWithBreak like = endsWithBreak t) :
    writeLines (lines t) like = withLineEnd (lineEnd like) t := by
  induction t using lines.induct with
  | case1 =>
    rw [lines, withLineEnd, writeLines, h]
    rfl
  | case2 rest ih => exact writeLines_stop ['\r', '\n'] (by simp) (by simp [isBreak]) h ih
  | case3 rest hr ih =>
    rw [lines.eq_3 rest hr, withLineEnd.eq_3 _ rest hr]
    exact writeLines_stop ['\r'] (by simp) (by simp [isBreak]) h ih
  | case4 rest ih => exact writeLines_stop ['\n'] (by simp) (by simp [isBreak]) h ih
  | case5 c rest _ hr hn hl ih =>
    have hc : isBreak c = false := by simpa [isBreak] using ⟨hn, hr⟩
    have hrest : rest = [] := (split_lines rest).eq_nil_iff.2 hl
    subst hrest
    have hopen : endsWithBreak [c] = false := by simpa [endsWithBreak, isBreak] using hc
    rw [lines_cons_of_not_isBreak hc, hl, withLineEnd_cons hc, writeLines, join_singleton, h, hopen]
    rfl
  | case6 c rest _ hr hn line more hl ih =>
    have hc : isBreak c = false := by simpa [isBreak] using ⟨hn, hr⟩
    have hrest : rest ≠ [] := mt (split_lines rest).eq_nil_iff.1 (hl ▸ List.cons_ne_nil line more)
    rw [endsWithBreak_cons c hrest] at h
    rw [lines_cons_of_not_isBreak hc, hl, withLineEnd_cons hc, ← ih h, hl]
    exact writeLines_push c line more like

/-! ## Ended lines -/

/-- Each spelling closes a line, unless a line feed behind it makes another one of it. -/
theorem lines_lineEnd_append {stop rest : Text} (h : stop ∈ lineEnds)
    (hrest : stop = ['\r'] → rest.head? ≠ some '\n') : lines (stop ++ rest) = [] :: lines rest := by
  rcases List.mem_cons.1 h with rfl | h
  · rfl
  rcases List.mem_cons.1 h with rfl | h
  · rfl
  obtain rfl := List.mem_singleton.1 h
  refine lines.eq_3 rest ?_
  rintro more rfl
  exact hrest rfl rfl

theorem head?_ended_ne {parts : List Text} (h : ∀ line ∈ parts, NoBreak line) :
    (parts.flatMap (· ++ ['\r'])).head? ≠ some '\n' := by
  rcases parts with _ | ⟨_ | ⟨c, line⟩, more⟩
  · simp
  · simp
  · -- the first character is one of the first line
    have hc := (noBreak_cons.1 (h _ (List.mem_cons_self ..))).1
    rintro ⟨⟩
    cases hc

theorem lines_ended {parts : List Text} {stop : Text} (h : ∀ line ∈ parts, NoBreak line) (hstop : stop ∈ lineEnds) :
    lines (parts.flatMap (· ++ stop)) = parts := by
  induction parts with
  | nil => rfl
  | cons line rest ih =>
    obtain ⟨hline, hrest⟩ := List.forall_mem_cons.1 h
    have hclose : lines (stop ++ rest.flatMap (· ++ stop)) = [] :: lines (rest.flatMap (· ++ stop)) := by
      refine lines_lineEnd_append hstop ?_
      rintro rfl
      exact head?_ended_ne hrest
    rw [List.flatMap_cons, List.append_assoc, lines_append_stop hline hclose, ih hrest]

/-- Splitting and writing are inverse up to the spelling of line ends. The lines of a text written like
the text are the text with each line end spelled as the pair if the text has the pair anywhere, else
as a line feed, so the last line is closed exactly if it was; and lines that are each closed by the
same spelling, whichever it is, are read back. -/
theorem lines_roundTrip (t : Text) :
    writeLines (lines t) t = withLineEnd (if ['\r', '\n'] <:+: t then ['\r', '\n'] else ['\n']) t ∧
      endsWithBreak (writeLines (lines t) t) = endsWithBreak t ∧
        ∀ parts : List Text, (∀ line ∈ parts, NoBreak line) → ∀ stop ∈ lineEnds,
          lines (parts.flatMap (· ++ stop)) = parts := by
  have hwritten := writeLines_lines (rfl : endsWithBreak t = endsWithBreak t)
  refine ⟨?_, ?_, fun parts hparts stop hstop => lines_ended hparts hstop⟩
  · rw [hwritten, lineEnd_eq]
  · rw [hwritten]
    exact endsWithBreak_withLineEnd (lineEnd_ne_nil t) (fun c hc => isBreak_of_mem_lineEnd hc) t

/-- A text with all three spellings, closed by a carriage return, and lines closed by carriage returns,
one of them empty. -/
theorem lines_roundTrip_of_carriageReturns :
    (∀ line ∈ ["a".toList, [], "b".toList], NoBreak line) ∧ ['\r'] ∈ lineEnds ∧
      writeLines (lines "a\rb\r\n\nc\r".toList) "a\rb\r\n\nc\r".toList = "a\r\nb\r\n\r\nc\r\n".toList ∧
        lines "a\r\rb\r".toList = ["a".toList, [], "b".toList] := by
  have hparts : ∀ line ∈ ["a".toList, [], "b".toList], NoBreak line := by decide
  have hstop : ['\r'] ∈ lineEnds := by decide
  obtain ⟨hwritten, -, hread⟩ := lines_roundTrip "a\rb\r\n\nc\r".toList
  refine ⟨hparts, hstop, ?_, hread _ hparts _ hstop⟩
  rw [hwritten]
  decide

end MarkdownStyle.Text
