/-
Reading a line and writing it. A fence run and a list item are read from a line exactly when the
line is what they are written as, so what a rule writes is read back as it was meant.
-/
import MarkdownStyle.Line.Fence
import MarkdownStyle.Line.Grammar
import MarkdownStyle.Proofs.Text.Trim

namespace MarkdownStyle

/-! ## Characters -/

theorem isBlank_of_mem_spaces {n : Nat} {c : Char} (h : c ∈ List.replicate n ' ') : Text.isBlank c = true := by
  rw [List.eq_of_mem_replicate h]
  exact isBlank_space

theorem isBlank_dash : Text.isBlank '-' = false := by decide

theorem isBlank_backtick : Text.isBlank backtick = false := by decide

theorem isBlank_tilde : Text.isBlank tilde = false := by decide

/-! ## Fence runs -/

namespace FenceLine

/-- The parts of a fence run are what a reader takes them for. -/
structure Proper (run : FenceLine) : Prop where
  indent : ∀ c ∈ run.indent, Text.isBlank c = true
  marker : run.marker = backtick ∨ run.marker = tilde
  length : 3 ≤ run.length
  info : ∀ c ∈ run.info.head?, c ≠ run.marker

/-- A fence run as a line. -/
def written (run : FenceLine) : Text := run.indent ++ (List.replicate run.length run.marker ++ run.info)

theorem isBlank_marker {c : Char} (h : c = backtick ∨ c = tilde) : Text.isBlank c = false := by
  rcases h with rfl | rfl
  · exact isBlank_backtick
  · exact isBlank_tilde

theorem ofLine?_written {run : FenceLine} (h : run.Proper) : ofLine? run.written = some run := by
  obtain ⟨n, hn⟩ : ∃ n, run.length = n + 1 := ⟨run.length - 1, by have := h.length; omega⟩
  have hindent : Text.span Text.isBlank run.written =
      (run.indent, List.replicate run.length run.marker ++ run.info) := by
    refine Text.span_eq_iff.2 ⟨rfl, h.indent, ?_⟩
    rw [hn, List.replicate_succ]
    rintro c ⟨⟩
    exact isBlank_marker h.marker
  have hrun : Text.span (· == run.marker) (List.replicate run.length run.marker ++ run.info) =
      (List.replicate run.length run.marker, run.info) := by
    refine Text.span_eq_iff.2 ⟨rfl, fun c hc => ?_, fun c hc => ?_⟩
    · simpa using List.eq_of_mem_replicate hc
    · simpa using h.info c hc
  have hmarker : (run.marker == backtick || run.marker == tilde) = true := by
    simpa using h.marker
  unfold ofLine?
  simp only [hindent]
  rw [hn, List.replicate_succ, List.cons_append]
  simp only
  rw [if_pos hmarker, ← List.cons_append, ← List.replicate_succ, ← hn, hrun]
  simp [h.length]

theorem ofLine?_eq_some {line : Text} {run : FenceLine} :
    ofLine? line = some run ↔ run.Proper ∧ line = run.written := by
  constructor
  · intro h
    unfold ofLine? at h
    cases hspan : Text.span Text.isBlank line with | mk indent rest =>
    obtain ⟨rfl, hindent, -⟩ := Text.span_eq_iff.1 hspan
    rcases rest with _ | ⟨marker, rest⟩
    · simp only [hspan, reduceCtorEq] at h
    cases hrun : Text.span (· == marker) (marker :: rest) with | mk run info =>
    obtain ⟨hrest, hsame, hinfo⟩ := Text.span_eq_iff.1 hrun
    simp only [hspan, hrun] at h
    split at h
    · rename_i hmarker
      split at h
      · rename_i hlength
        cases h
        have hreplicate : run = List.replicate run.length marker :=
          List.eq_replicate_of_mem fun c hc => by simpa using hsame c hc
        refine ⟨⟨hindent, by simpa using hmarker, hlength, fun c hc => by simpa using hinfo c hc⟩, ?_⟩
        rw [hrest, written, ← hreplicate]
      · cases h
    · cases h
  · rintro ⟨h, rfl⟩
    exact ofLine?_written h

/-- A line that does not start with a fence marker is no fence run. -/
theorem ofLine?_eq_none {indent rest : Text} {c : Char} (hi : ∀ d ∈ indent, Text.isBlank d = true)
    (hb : Text.isBlank c = false) (hc : c ≠ backtick ∧ c ≠ tilde) : ofLine? (indent ++ c :: rest) = none := by
  have hspan : Text.span Text.isBlank (indent ++ c :: rest) = (indent, c :: rest) :=
    Text.span_eq_iff.2 ⟨rfl, hi, by rintro d ⟨⟩; exact hb⟩
  unfold ofLine?
  simp [hspan, hc]

end FenceLine

/-! ## Underlines and definitions -/

/-- An underline of equals signs has level one, and one of dashes level two. -/
theorem cons_of_underlineLevel? {line : Text} {level : Nat} (h : underlineLevel? line = some level) :
    ∃ c rest, line = c :: rest ∧ (c = '=' ∧ level = 1 ∨ c = '-' ∧ level = 2) := by
  have hlevel : ∀ {c : Char} {l : Nat}, underlineLevel?.level? line c l = some level → level = l := by
    intro c l h
    unfold underlineLevel?.level? at h
    simp only at h
    split at h
    · exact (Option.some.inj h).symm
    · cases h
  unfold underlineLevel? at h
  split at h
  · exact ⟨_, _, rfl, .inl ⟨rfl, hlevel h⟩⟩
  · exact ⟨_, _, rfl, .inr ⟨rfl, hlevel h⟩⟩
  · cases h

/-- An underline is no fence run. -/
theorem FenceLine.ofLine?_of_underlineLevel? {line : Text} {level : Nat} (h : underlineLevel? line = some level) :
    ofLine? line = none := by
  obtain ⟨c, rest, rfl, hc⟩ := cons_of_underlineLevel? h
  refine @FenceLine.ofLine?_eq_none [] rest c (by simp) ?_ ?_ <;> rcases hc with ⟨rfl, -⟩ | ⟨rfl, -⟩ <;> decide

/-- An underline is not blank. -/
theorem isAllBlank_of_underlineLevel? {line : Text} {level : Nat} (h : underlineLevel? line = some level) :
    Text.isAllBlank line = false := by
  obtain ⟨c, rest, rfl, hc⟩ := cons_of_underlineLevel? h
  rw [Text.isAllBlank, List.all_cons, Bool.and_eq_false_iff]
  rcases hc with ⟨rfl, -⟩ | ⟨rfl, -⟩
  · exact .inl (by decide)
  · exact .inl (by decide)

theorem definitionLabel?_ne_nil {line label : Text} (h : definitionLabel? line = some label) : label ≠ [] := by
  unfold definitionLabel? at h
  split at h
  · split at h
    · cases h
    · rename_i hnil _
      split at h
      · cases h
        exact hnil
      · cases h
    · cases h
  · cases h

/-! ## List items -/

namespace ListItem

theorem ofLine?_eq_some {line : Text} {item : ListItem} :
    ofLine? line = some item ↔ ∃ indent gap : Text,
      line = indent ++ item.bullet :: (gap ++ item.content) ∧ indent.length = item.indent ∧
        gap.length = item.gap ∧ gap ≠ [] ∧ (∀ c ∈ indent, Text.isBlank c = true) ∧
        (∀ c ∈ gap, Text.isBlank c = true) ∧ (∀ c ∈ item.content.head?, Text.isBlank c = false) ∧
        (item.bullet = '-' ∨ item.bullet = '*' ∨ item.bullet = '+') := by
  constructor
  · intro h
    unfold ofLine? at h
    cases hspan : Text.span Text.isBlank line with | mk indent rest =>
    obtain ⟨rfl, hindent, -⟩ := Text.span_eq_iff.1 hspan
    rcases rest with _ | ⟨bullet, rest⟩
    · simp only [hspan, reduceCtorEq] at h
    cases hgap : Text.span Text.isBlank rest with | mk gap content =>
    obtain ⟨rfl, hblank, hcontent⟩ := Text.span_eq_iff.1 hgap
    simp only [hspan, hgap] at h
    split at h
    · rename_i hb
      cases h
      simp only [Bool.and_eq_true, Bool.or_eq_true, beq_iff_eq, Bool.not_eq_true', List.isEmpty_eq_false_iff] at hb
      exact ⟨indent, gap, rfl, rfl, rfl, hb.2, hindent, hblank, hcontent, or_assoc.1 hb.1⟩
    · cases h
  · rintro ⟨indent, gap, rfl, hi, hg, hne, hindent, hblank, hcontent, hbullet⟩
    have hspan : Text.span Text.isBlank (indent ++ item.bullet :: (gap ++ item.content)) =
        (indent, item.bullet :: (gap ++ item.content)) := by
      refine Text.span_eq_iff.2 ⟨rfl, hindent, ?_⟩
      rintro c ⟨⟩
      rcases hbullet with h | h | h <;> rw [h] <;> decide
    have hgap := Text.span_eq_iff.2 ⟨rfl, hblank, hcontent⟩
    unfold ofLine?
    simp only [hspan, hgap]
    rw [if_pos (by simp [hbullet, hne, or_assoc]), hi, hg]

end ListItem

end MarkdownStyle
