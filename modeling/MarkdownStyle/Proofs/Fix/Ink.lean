/-
What fixing does to the ink of a text: to its characters other than whitespace, backticks and
tildes. New indents, gaps and fences are made of those alone, so the ink stays, with one exception:
a fence that closes a block is written anew without what stands behind its run.
-/
import MarkdownStyle.Proofs.Fix.Accepted
import MarkdownStyle.Proofs.Fix.Linter

namespace MarkdownStyle

/-! ## Ink -/

def isInk (c : Char) : Bool := !(Text.isBlank c || c == backtick || c == tilde)

/-- A text without its whitespace, backticks and tildes. -/
def ink (t : Text) : Text := t.filter isInk

@[simp] theorem ink_append (s t : Text) : ink (s ++ t) = ink s ++ ink t := List.filter_append ..

theorem ink_eq_nil {t : Text} (h : ∀ c ∈ t, isInk c = false) : ink t = [] :=
  List.filter_eq_nil_iff.2 fun c hc => by simp [h c hc]

theorem isInk_of_isBlank {c : Char} (h : Text.isBlank c = true) : isInk c = false := by
  unfold isInk
  rw [h]
  rfl

theorem isInk_of_marker {c : Char} (h : c = backtick ∨ c = tilde) : isInk c = false := by
  rcases h with rfl | rfl <;> decide

theorem ink_replicate {c : Char} (h : isInk c = false) (n : Nat) : ink (List.replicate n c) = [] :=
  ink_eq_nil fun d hd => by rw [List.eq_of_mem_replicate hd, h]

theorem isBlank_of_isBreak {c : Char} (h : Text.isBreak c = true) : Text.isBlank c = true := by
  unfold Text.isBreak at h
  rw [Bool.or_eq_true, beq_iff_eq, beq_iff_eq] at h
  rcases h with rfl | rfl <;> decide

theorem isInk_of_isBreak (c : Char) (h : Text.isBreak c = true) : isInk c = false :=
  isInk_of_isBlank (isBlank_of_isBreak h)

theorem ink_lines (t : Text) : (Text.lines t).flatMap ink = ink t := Text.flatMap_filter_lines isInk_of_isBreak t

theorem ink_writeLines (parts : List Text) (like : Text) :
    ink (Text.writeLines parts like) = parts.flatMap ink :=
  Text.filter_writeLines isInk_of_isBreak parts like

/-! ## The ink of mended lines -/

theorem ink_of_blank {t : Text} (h : ∀ c ∈ t, Text.isBlank c = true) : ink t = [] :=
  ink_eq_nil fun c hc => isInk_of_isBlank (h c hc)

/-- A list item that is laid out anew has the ink of the old one. -/
theorem DashItem.ink_mended {line : Text} {item : ListItem} (hitem : ListItem.ofLine? line = some item)
    (hb : item.bullet = '-') (style : Style) (indent : Int) : ink (mended style indent item.content) = ink line :=
  filter_mended (fun _ => isInk_of_isBlank) hitem hb style indent

/-- A mended fence keeps the ink of its info string if it opens a block. -/
theorem FenceStyle.ink_mended (length : Int) {run : FenceLine} (h : run.Proper) (opens : Bool) :
    ink (mended length run opens) = if opens then ink run.written else [] := by
  have hnew : ink (List.replicate length.toNat tilde) = [] := ink_replicate (isInk_of_marker (.inr rfl)) _
  have hold : ink (List.replicate run.length run.marker) = [] := ink_replicate (isInk_of_marker h.marker) _
  unfold mended FenceLine.written
  simp only [ink_append, ink_of_blank h.indent, hnew, hold, List.nil_append]
  cases opens <;> rfl

/-! ## The ink of a fixed text -/

/-- A fence up to the end of its run. -/
def Site.withoutTail (x : Site) : Text :=
  match FenceLine.ofLine? x.line.text with
  | some run => run.indent ++ List.replicate run.length run.marker
  | none => x.line.text

/-- Whether the linter offers an edit of a line. -/
def Linter.edits (l : Linter) (d : Document) (x : Site) : Bool :=
  (l.issues d).any fun i => i.edit.any (·.line == (x.line.number : Int))

/-- Whether the linter offers an edit of a line that is the closing fence of a block. -/
def Linter.rewritesClosing (l : Linter) (d : Document) (x : Site) : Bool :=
  x.line.role == .fence && x.fence.isOpen && l.edits d x

theorem Mending.ink_lines (m : Mending) (x : Site) :
    (m.lines x).flatMap ink =
      ink (if x.line.role = .fence ∧ x.fence.isOpen = true ∧ m.edits x ≠ [] then x.withoutTail else x.line.text) := by
  have hminds := m.minds_edits x
  unfold Mending.lines
  generalize m.edits x = edits at hminds
  cases hminds with
  | none => simp [editedLine_nil]
  | dash hstyle hrole hitem hb hfault =>
    rw [if_neg (by simp [hrole]), editedLine_replace, List.flatMap_singleton, DashItem.ink_mended hitem hb]
  | @fence length run detail hlength hrole hrun hfault =>
    obtain ⟨hproper, htext⟩ := FenceLine.ofLine?_eq_some.1 hrun
    rw [editedLine_replace, List.flatMap_singleton, FenceStyle.ink_mended length hproper]
    cases ho : x.fence.isOpen with
    | false => rw [Bool.not_false, if_pos rfl, if_neg (by simp), htext]
    | true =>
      rw [Bool.not_true, if_neg Bool.false_ne_true, if_pos ⟨hrole, rfl, by simp⟩, Site.withoutTail, hrun]
      simp [ink_of_blank hproper.indent, ink_replicate (isInk_of_marker hproper.marker)]
  | blank hstyle hcount hrole hlt =>
    rw [if_neg (by simp [hrole]), editedLine_insert]
    simp [ink]

theorem Linter.rewritesClosing_iff {l : Linter} (h : l.registry = .builtin) {lines : List Text} {x : Site}
    (hx : x ∈ sites lines) :
    l.rewritesClosing (.ofLines lines) x = true ↔
      x.line.role = .fence ∧ x.fence.isOpen = true ∧ (l.mending.feasible (sites lines)).edits x ≠ [] := by
  have hedits : l.edits (.ofLines lines) x = true ↔ (l.mending.feasible (sites lines)).edits x ≠ [] := by
    rw [← Mending.filter_edits (l.edits_perm h lines) hx]
    simp only [Linter.edits, List.any_eq_true, Option.any_eq_true, beq_iff_eq, ne_eq, List.filter_eq_nil_iff,
      List.mem_filterMap, not_forall, not_not]
    constructor
    · rintro ⟨i, hi, edit, he, hl⟩
      exact ⟨edit, ⟨i, hi, he⟩, hl⟩
    · rintro ⟨edit, ⟨i, hi, he⟩, hl⟩
      exact ⟨i, hi, edit, he, hl⟩
  simp only [rewritesClosing, Bool.and_eq_true, beq_iff_eq, hedits, and_assoc]

/-- Fixing keeps the ink of a text but for what stands behind the fences that it closes blocks with. -/
theorem ink_fix {config : Mapping} {l : Linter} (h : Linter.ofConfig .builtin config = .ok l) (t : Text)
    (path : String) :
    ink (l.fix t path).1 = (sites (Text.lines t)).flatMap fun x =>
      ink (if l.rewritesClosing (.ofLines (Text.lines t)) x then x.withoutTail else x.line.text) := by
  have hl := (Linter.ofConfig_eq_ok h).1
  have hsites : (sites (Text.lines t)).flatMap (fun x =>
      ink (if l.rewritesClosing (.ofLines (Text.lines t)) x then x.withoutTail else x.line.text)) =
      (l.mendedLines t).flatMap ink := by
    rw [Linter.mendedLines, List.flatMap_assoc]
    refine List.flatMap_congr fun x hx => ?_
    rw [Mending.ink_lines]
    simp only [Linter.rewritesClosing_iff hl hx]
    rfl
  rw [hsites]
  by_cases hq : (l.mendingOf t).Quiet (sites (Text.lines t))
  · rw [Linter.fix_of_quiet hl path hq, ← ink_lines t, Linter.mendedLines, Mending.flatMap_lines hq, map_text_sites]
  · rw [Linter.fix_of_not_quiet hl path hq, ink_writeLines]

/-- The opening fence keeps its info string here, the closing one loses the word behind it. -/
theorem ink_fix_of_tail :
    Linter.ofConfig .builtin [] = .ok .house ∧
      ink (Linter.house.fix "```c\nx\n``` tail\n".toList "").1 = "cx".toList := by
  refine ⟨Linter.ofConfig_nil, (ink_fix Linter.ofConfig_nil _ _).trans ?_⟩
  rw [List.flatMap_congr fun x hx => by rw [if_congr (Linter.rewritesClosing_iff rfl hx) rfl rfl]]
  decide

/-- Not all ink is kept: the tail of a closing fence is lost. -/
theorem ink_fix_ne_ink : ∃ l, Linter.ofConfig .builtin [] = .ok l ∧
    ink (l.fix "```\nx\n``` tail\n".toList "").1 ≠ ink "```\nx\n``` tail\n".toList := by
  refine ⟨.house, Linter.ofConfig_nil, ?_⟩
  rw [Linter.fix_of_not_quiet rfl "" (by decide), ink_writeLines]
  decide

end MarkdownStyle
