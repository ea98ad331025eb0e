/-
Trimming. What trimming leaves of a text has a visible character at each end, and only whitespace is cut
off around it; so nothing is left exactly of whitespace, and no visible character is lost.
-/
import MarkdownStyle.Text.Basic
import Mathlib.Data.List.DropRight
import Mathlib.Tactic

namespace MarkdownStyle

theorem Text.span_eq_iff {p : Char → Bool} {t front back : Text} :
    Text.span p t = (front, back) ↔
      t = front ++ back ∧ (∀ c ∈ front, p c = true) ∧ ∀ c ∈ back.head?, p c = false := by
  unfold Text.span
  constructor
  · intro h
    cases h
    refine ⟨List.takeWhile_append_dropWhile.symm, List.all_eq_true.1 List.all_takeWhile, fun c hc => ?_⟩
    have := List.head?_dropWhile_not p t
    rw [Option.mem_def.1 hc] at this
    simpa using this
  · rintro ⟨rfl, hfront, hback⟩
    rw [List.takeWhile_append_of_pos hfront, List.dropWhile_append_of_pos hfront]
    rcases back with _ | ⟨c, back⟩
    · simp
    · have hc := hback c rfl
      rw [List.takeWhile_cons_of_neg (by simp [hc]), List.dropWhile_cons_of_neg (by simp [hc]), List.append_nil]

theorem isBlank_space : Text.isBlank ' ' = true := by decide

namespace Text

variable {t : Text}

theorem isAllBlank_cons {c : Char} : isAllBlank (c :: t) = true ↔ isBlank c = true ∧ isAllBlank t = true := by
  rw [isAllBlank, List.all_cons, Bool.and_eq_true, isAllBlank]

theorem isAllBlank_append {s : Text} : isAllBlank (s ++ t) = true ↔ isAllBlank s = true ∧ isAllBlank t = true := by
  rw [isAllBlank, List.all_append, Bool.and_eq_true, isAllBlank, isAllBlank]

/-! ## The left end -/

theorem head?_trimLeft (t : Text) : ∀ c ∈ (trimLeft t).head?, isBlank c = false :=
  (span_eq_iff.1 (rfl : span isBlank t = _)).2.2

/-- A line is whitespace in front of what trimming leaves of it. -/
theorem trimLeft_eq_iff {line : Text} (h : ∀ c ∈ t.head?, isBlank c = false) :
    trimLeft line = t ↔ ∃ indent, isAllBlank indent = true ∧ line = indent ++ t := by
  constructor
  · rintro rfl
    exact ⟨line.takeWhile isBlank, List.all_takeWhile, List.takeWhile_append_dropWhile.symm⟩
  · rintro ⟨indent, hindent, rfl⟩
    have hspan := Text.span_eq_iff.2 ⟨rfl, List.all_eq_true.1 hindent, h⟩
    exact congrArg Prod.snd hspan

theorem trimLeft_eq_nil_iff : trimLeft t = [] ↔ isAllBlank t = true := by
  rw [trimLeft, List.dropWhile_eq_nil_iff, isAllBlank, List.all_eq_true]

theorem trimLeft_space (t : Text) : trimLeft (' ' :: t) = trimLeft t := List.dropWhile_cons_of_pos isBlank_space

/-- What a trimmed text that is not empty stands in front of is not trimmed on the left. -/
theorem trimLeft_append {t : Text} (h : trimLeft t = t) (hne : t ≠ []) (rest : Text) :
    trimLeft (t ++ rest) = t ++ rest := by
  rw [trimLeft, List.dropWhile_append]
  change (if (trimLeft t).isEmpty then _ else trimLeft t ++ rest) = _
  rw [h, if_neg (by simpa using hne)]

theorem mem_trimLeft {c : Char} (hc : isBlank c = false) (h : c ∈ t) : c ∈ trimLeft t := by
  rw [← List.takeWhile_append_dropWhile (p := isBlank) (l := t)] at h
  rcases List.mem_append.1 h with h | h
  · exact absurd (List.all_eq_true.1 List.all_takeWhile c h) (by rw [hc]; exact Bool.false_ne_true)
  · exact h

/-! ## The right end -/

theorem length_trimRight_le (t : Text) : (trimRight t).length ≤ t.length := (List.rdropWhile_prefix _ t).length_le

section

variable {tail : Text}

theorem dropWhile_reverse_append (h : isAllBlank tail = true) :
    (t ++ tail).reverse.dropWhile isBlank = t.reverse.dropWhile isBlank := by
  rw [List.reverse_append, List.dropWhile_append_of_pos]
  exact fun c hc => List.all_eq_true.1 h c (List.mem_reverse.1 hc)

theorem trimRight_append (h : isAllBlank tail = true) : trimRight (t ++ tail) = trimRight t := by
  rw [trimRight, dropWhile_reverse_append h, trimRight]

end

/-! ## Both ends -/

theorem mem_trim {c : Char} (hc : isBlank c = false) (h : c ∈ t) : c ∈ trim t := by
  rw [trim, trimRight, List.mem_reverse]
  exact mem_trimLeft hc (List.mem_reverse.2 (mem_trimLeft hc h))

theorem trim_eq_nil_iff : trim t = [] ↔ isAllBlank t = true := by
  constructor
  · intro h
    rw [isAllBlank, List.all_eq_true]
    intro c hc
    by_contra hblank
    have hm := mem_trim (Bool.not_eq_true _ ▸ hblank) hc
    rw [h] at hm
    cases hm
  · intro h
    rw [trim, trimLeft_eq_nil_iff.2 h]
    rfl

theorem trim_append {tail : Text} (h : isAllBlank tail = true) : trim (t ++ tail) = trim t := by
  by_cases ht : isAllBlank t = true
  · rw [trim_eq_nil_iff.2 ht, trim_eq_nil_iff.2 (isAllBlank_append.2 ⟨ht, h⟩)]
  · have hleft : trimLeft (t ++ tail) = trimLeft t ++ tail := by
      rw [trimLeft, List.dropWhile_append, if_neg]
      · rfl
      · rw [List.isEmpty_iff]
        exact mt trimLeft_eq_nil_iff.1 ht
    rw [trim, hleft, trimRight_append h, trim]

/-- A text that trimming leaves as it is has no whitespace at either end. -/
theorem ends_of_trim {t : Text} (h : trim t = t) : trimLeft t = t ∧ trimRight t = t := by
  have hleft : trimLeft t = t := by
    refine (List.dropWhile_sublist _).eq_of_length_le ?_
    conv_lhs => rw [← h, trim]
    exact length_trimRight_le _
  exact ⟨hleft, by rwa [trim, hleft] at h⟩

/-- A text that does not start with whitespace is a trimmed text with whitespace behind it. -/
theorem exists_trimmed (h : ∀ c ∈ t.head?, isBlank c = false) :
    ∃ s tail, trim s = s ∧ isAllBlank tail = true ∧ t = s ++ tail := by
  have hsplit : trimRight t ++ t.rtakeWhile isBlank = t := List.rdropWhile_append_rtakeWhile
  have hleft : trimLeft (trimRight t) = trimRight t := by
    refine (trimLeft_eq_iff fun c hc => h c ?_).2 ⟨[], rfl, rfl⟩
    rw [← hsplit, List.head?_append, Option.mem_def.1 hc]
    rfl
  refine ⟨trimRight t, t.rtakeWhile isBlank, ?_, List.all_eq_true.2 fun c hc => List.mem_rtakeWhile_imp hc, hsplit.symm⟩
  rw [trim, hleft]
  exact List.rdropWhile_idempotent ..

end Text

end MarkdownStyle
