/-
Splitting a text into lines and writing lines again. Splitting takes a text apart character by
character: one belongs to a line end and closes a line, or it is in front of the line that follows.
Lines that are written like a text are read back, unless the last of them would be lost for want of
a line end.
-/
import MarkdownStyle.Text.Lines
import Mathlib.Tactic

namespace MarkdownStyle.Text

/-- Whether a character ends a line or is part of a line end. -/
def isBreak (c : Char) : Bool := c == '\n' || c == '\r'

/-- A text without line ends. -/
def NoBreak (t : Text) : Prop := ∀ c ∈ t, isBreak c = false

instance : DecidablePred NoBreak := fun t => List.decidableBAll (fun c => isBreak c = false) t

theorem noBreak_nil : NoBreak [] := fun _ h => absurd h List.not_mem_nil

theorem noBreak_cons {c : Char} {t : Text} : NoBreak (c :: t) ↔ isBreak c = false ∧ NoBreak t :=
  List.forall_mem_cons

theorem NoBreak.append {s t : Text} (hs : NoBreak s) (ht : NoBreak t) : NoBreak (s ++ t) :=
  fun c hc => (List.mem_append.1 hc).elim (hs c) (ht c)

theorem noBreak_replicate {c : Char} (h : isBreak c = false) (n : Nat) : NoBreak (List.replicate n c) := by
  intro d hd
  rw [List.eq_of_mem_replicate hd, h]

theorem NoBreak.of_subset {s t : Text} (h : NoBreak t) (hs : s ⊆ t) : NoBreak s := fun c hc => h c (hs hc)

/-! ## Splitting -/

theorem lines_cons_of_not_isBreak {c : Char} (h : isBreak c = false) (t : Text) :
    lines (c :: t) =
      match lines t with
      | [] => [[c]]
      | line :: more => (c :: line) :: more := by
  have hc : c ≠ '\n' ∧ c ≠ '\r' := by simpa [isBreak] using h
  exact lines.eq_5 c t (fun _ hr _ => hc.2 hr) hc.2 hc.1

/-- A text and its lines, taken apart from the front. -/
inductive Split : Text → List Text → Prop
  | nil : Split [] []
  | stop {stop rest : Text} {parts : List Text} : stop ≠ [] → (∀ c ∈ stop, isBreak c = true) →
      Split rest parts → Split (stop ++ rest) ([] :: parts)
  | last {c : Char} : isBreak c = false → Split [c] [[c]]
  | char {c : Char} {rest line : Text} {more : List Text} : isBreak c = false →
      Split rest (line :: more) → Split (c :: rest) ((c :: line) :: more)

theorem Split.eq_nil_iff {t : Text} {parts : List Text} (h : Split t parts) : t = [] ↔ parts = [] := by
  cases h <;> simp_all

theorem split_lines (t : Text) : Split t (lines t) := by
  induction t using lines.induct with
  | case1 => exact .nil
  | case2 rest ih => exact @Split.stop ['\r', '\n'] _ _ (by simp) (by simp [isBreak]) ih
  | case3 rest hr ih =>
    rw [lines.eq_3 rest hr]
    exact @Split.stop ['\r'] _ _ (by simp) (by simp [isBreak]) ih
  | case4 rest ih => exact @Split.stop ['\n'] _ _ (by simp) (by simp [isBreak]) ih
  | case5 c rest _ hr hn hl ih =>
    have hc : isBreak c = false := by simpa [isBreak] using ⟨hn, hr⟩
    rw [lines_cons_of_not_isBreak hc, hl]
    rw [ih.eq_nil_iff.2 hl]
    exact .last hc
  | case6 c rest _ hr hn line more hl ih =>
    have hc : isBreak c = false := by simpa [isBreak] using ⟨hn, hr⟩
    rw [lines_cons_of_not_isBreak hc, hl]
    rw [hl] at ih
    exact .char hc ih

theorem noBreak_of_mem_lines {t line : Text} (h : line ∈ lines t) : NoBreak line := by
  generalize lines t = parts, split_lines t = hs at h
  induction hs generalizing line with
  | nil => cases h
  | stop _ _ _ ih =>
    rcases List.mem_cons.1 h with rfl | h
    · exact noBreak_nil
    · exact ih h
  | last hc =>
    rw [List.mem_singleton.1 h]
    exact noBreak_cons.2 ⟨hc, noBreak_nil⟩
  | char hc _ ih =>
    rcases List.mem_cons.1 h with rfl | h
    · exact noBreak_cons.2 ⟨hc, ih (List.mem_cons_self ..)⟩
    · exact ih (List.mem_cons_of_mem _ h)

/-- Only line ends are lost. -/
theorem flatMap_filter_lines {p : Char → Bool} (hp : ∀ c, isBreak c = true → p c = false) (t : Text) :
    (lines t).flatMap (List.filter p) = t.filter p := by
  generalize lines t = parts, split_lines t = hs
  induction hs with
  | nil => rfl
  | @stop stop rest parts _ hb _ ih =>
    have hstop : stop.filter p = [] := List.filter_eq_nil_iff.2 fun c hc => by simp [hp c (hb c hc)]
    rw [List.flatMap_cons, List.filter_append, hstop, ih, List.filter_nil]
  | last hc => simp
  | char hc _ ih => simp [List.filter_cons, ← ih]; split <;> simp

theorem endsWithBreak_append (s : Text) {t : Text} (h : t ≠ []) :
    endsWithBreak (s ++ t) = endsWithBreak t := by
  unfold endsWithBreak
  rw [List.getLast?_append_of_ne_nil _ h]

theorem endsWithBreak_cons (c : Char) {rest : Text} (h : rest ≠ []) : endsWithBreak (c :: rest) = endsWithBreak rest :=
  endsWithBreak_append [c] h

theorem endsWithBreak_of_forall {stop : Text} (h : stop ≠ []) (hb : ∀ c ∈ stop, isBreak c = true) :
    endsWithBreak stop = true := by
  unfold endsWithBreak
  rw [List.getLast?_eq_some_getLast h]
  exact hb _ (List.getLast_mem h)

/-- Unless a text ends with a line end, its last line is not empty. -/
theorem getLast?_lines_ne_nil {t : Text} (h : endsWithBreak t = false) : (lines t).getLast? ≠ some [] := by
  generalize lines t = parts, split_lines t = hs
  induction hs with
  | nil => simp
  | @stop stop rest parts hne hb hs ih =>
    have hrest : rest ≠ [] := by
      rintro rfl
      rw [List.append_nil, endsWithBreak_of_forall hne hb] at h
      cases h
    obtain ⟨line, more, rfl⟩ := List.exists_cons_of_ne_nil (mt hs.eq_nil_iff.2 hrest)
    rw [endsWithBreak_append stop hrest] at h
    rw [List.getLast?_cons_cons]
    exact ih h
  | last hc => simp
  | @char c rest line more hc hs ih =>
    have hrest : rest ≠ [] := mt hs.eq_nil_iff.1 (List.cons_ne_nil line more)
    rw [endsWithBreak_cons c hrest] at h
    rcases more with _ | ⟨next, more⟩
    · simp
    · rw [List.getLast?_cons_cons] at ih ⊢
      exact ih h

/-! ## Writing -/

/-- What closes an empty line closes any stretch without line ends. -/
theorem lines_append_stop {line stop rest : Text} (h : NoBreak line) (hstop : lines (stop ++ rest) = [] :: lines rest) :
    lines (line ++ (stop ++ rest)) = line :: lines rest := by
  induction line with
  | nil => exact hstop
  | cons c line ih =>
    obtain ⟨hc, hline⟩ := noBreak_cons.1 h
    rw [List.cons_append, lines_cons_of_not_isBreak hc, ih hline]

theorem lines_append_lineEnd {line : Text} (h : NoBreak line) (like rest : Text) :
    lines (line ++ (lineEnd like ++ rest)) = line :: lines rest := by
  refine lines_append_stop h ?_
  unfold lineEnd
  split <;> simp [lines]

theorem lines_of_noBreak {line : Text} (h : NoBreak line) (hne : line ≠ []) : lines line = [line] := by
  induction line with
  | nil => exact absurd rfl hne
  | cons c line ih =>
    obtain ⟨hc, hline⟩ := noBreak_cons.1 h
    rw [lines_cons_of_not_isBreak hc]
    rcases line with _ | ⟨d, line⟩
    · rfl
    · rw [ih hline (by simp)]

theorem join_singleton (separator line : Text) : join separator [line] = line := by simp [join]

theorem join_cons_cons (separator line next : Text) (more : List Text) :
    join separator (line :: next :: more) = line ++ (separator ++ join separator (next :: more)) := by
  simp [join]

/-- Lines are read back from the text that they are written to. -/
theorem lines_writeLines {parts : List Text} {like : Text} (h : ∀ line ∈ parts, NoBreak line)
    (hne : parts ≠ []) (hlast : endsWithBreak like = false → parts.getLast? ≠ some []) :
    lines (writeLines parts like) = parts := by
  unfold writeLines
  induction parts with
  | nil => exact absurd rfl hne
  | cons line rest ih =>
    obtain ⟨hline, hrest⟩ := List.forall_mem_cons.1 h
    rcases rest with _ | ⟨next, more⟩
    · rw [join_singleton]
      split
      · have := lines_append_lineEnd hline like []
        rwa [List.append_nil] at this
      · rename_i he
        rw [List.append_nil]
        exact lines_of_noBreak hline fun hl => hlast (by simpa using he) (by simp [hl])
    · rw [join_cons_cons, List.append_assoc, List.append_assoc, lines_append_lineEnd hline,
        ih hrest (by simp) fun he => by simpa using hlast he]

theorem isBreak_of_mem_lineEnd {like : Text} {c : Char} (h : c ∈ lineEnd like) : isBreak c = true := by
  unfold lineEnd at h
  split at h <;> simp at h <;> rcases h with rfl | rfl <;> rfl

/-- Writing lines adds nothing but line ends. -/
theorem filter_writeLines {p : Char → Bool} (hp : ∀ c, isBreak c = true → p c = false) (parts : List Text)
    (like : Text) : (writeLines parts like).filter p = parts.flatMap (List.filter p) := by
  have hend : (lineEnd like).filter p = [] :=
    List.filter_eq_nil_iff.2 fun c hc => by simp [hp c (isBreak_of_mem_lineEnd hc)]
  have hjoin : ∀ parts, (join (lineEnd like) parts).filter p = parts.flatMap (List.filter p) := by
    intro parts
    induction parts with
    | nil => rfl
    | cons line rest ih =>
      rcases rest with _ | ⟨next, more⟩
      · rw [join_singleton, List.flatMap_singleton]
      · rw [join_cons_cons, List.filter_append, List.filter_append, hend, List.nil_append, ih]
        rfl
  unfold writeLines
  rw [List.filter_append, hjoin]
  split <;> simp [hend]

end MarkdownStyle.Text
