/-
Lines of references, written and read back. A line of prose is put together from plain text, the three
forms of references and inline links. Each part is read in one step whatever follows it, except that a
shortcut must not stand in front of what would make another link of it; so the labels of the line are
those of its parts, in order.
-/
import MarkdownStyle.Proofs.Reference.Label

namespace MarkdownStyle

/-- A part of a line of prose. -/
inductive ProsePart where
  | plain (text : Text)
  /-- A text with the label that it refers to. -/
  | full (text label : Text)
  /-- A text that is its own label, with an empty one behind it. -/
  | collapsed (text : Text)
  | shortcut (text : Text)
  | inlined (text target : Text)
deriving DecidableEq

namespace ProsePart

def written : ProsePart → Text
  | plain text => text
  | full text label => '[' :: (text ++ ']' :: '[' :: (label ++ [']']))
  | collapsed text => '[' :: (text ++ ']' :: '[' :: ([] ++ [']']))
  | shortcut text => '[' :: (text ++ [']'])
  | inlined text target => '[' :: (text ++ ']' :: '(' :: (target ++ [')']))

/-- The label that a part refers to. Plain text and inline links refer to none. -/
def label? : ProsePart → Option Text
  | full _ label => some label
  | collapsed text | shortcut text => some text
  | plain _ | inlined _ _ => none

def isShortcut : ProsePart → Bool
  | shortcut _ => true
  | _ => false

/-- A text without brackets and backticks. -/
def Inert (t : Text) : Prop := Unbracketed t ∧ backtick ∉ t

instance : DecidablePred Inert := fun t => inferInstanceAs (Decidable (Unbracketed t ∧ backtick ∉ t))

/-- The texts of a part are inert, and those that a link shows or refers to are not empty. -/
def Proper : ProsePart → Prop
  | plain text => Inert text
  | full text label => (Inert text ∧ text ≠ []) ∧ Inert label ∧ label ≠ []
  | collapsed text | shortcut text => Inert text ∧ text ≠ []
  | inlined text target => (Inert text ∧ text ≠ []) ∧ Inert target

instance : DecidablePred Proper
  | plain text => inferInstanceAs (Decidable (Inert text))
  | full text label => inferInstanceAs (Decidable ((Inert text ∧ text ≠ []) ∧ Inert label ∧ label ≠ []))
  | collapsed text | shortcut text => inferInstanceAs (Decidable (Inert text ∧ text ≠ []))
  | inlined text target => inferInstanceAs (Decidable ((Inert text ∧ text ≠ []) ∧ Inert target))

/-- A line as its parts are written one after the other. -/
def line (parts : List ProsePart) : Text := parts.flatMap written

/-- The parts are proper, and no shortcut is directly followed by what would belong to it. -/
def Readable : List ProsePart → Prop
  | [] => True
  | part :: rest =>
    part.Proper ∧ (part.isShortcut = true → ¬ FollowsOn (line rest)) ∧ Readable rest

instance decidableReadable : DecidablePred Readable
  | [] => isTrue trivial
  | part :: rest =>
    have := decidableReadable rest
    inferInstanceAs (Decidable (part.Proper ∧ (part.isShortcut = true → ¬ FollowsOn (line rest)) ∧ Readable rest))

/-- One part is read in one step. -/
theorem linkLabels_written {part : ProsePart} (h : part.Proper) {rest : Text}
    (hrest : part.isShortcut = true → ¬ FollowsOn rest) :
    linkLabels (part.written ++ rest) = part.label?.toList ++ linkLabels rest := by
  cases part with
  | plain text => exact linkLabels_append_of_not_mem h.1.not_mem.1 rest
  | full text label =>
    obtain ⟨⟨htext, hne⟩, hlabel, hlne⟩ := h
    have hread := linkLabels_labelled htext.1 hne hlabel.1 rest
    rw [List.isEmpty_eq_false_iff.2 hlne] at hread
    simpa [written, label?] using hread
  | collapsed text =>
    have hread := linkLabels_labelled h.1.1 h.2 unbracketed_nil rest
    simpa [written, label?] using hread
  | shortcut text =>
    have hread := linkLabels_shortcut h.1.1 h.2 (hrest rfl)
    simpa [written, label?] using hread
  | inlined text target =>
    obtain ⟨⟨htext, -⟩, htarget⟩ := h
    -- the bracket is passed over, and no other one follows in the part
    have hplain : '[' ∉ '(' :: (target ++ [')']) := by simp [htarget.1.not_mem.1]
    have hhidden : linkLabels ('[' :: (text ++ ']' :: ('(' :: (target ++ [')']) ++ rest))) = linkLabels _ :=
      linkLabels_hidden htext.1 (bracketed?_of_ne (by decide) _) ⟨'(', rfl, by decide⟩
    have hskip := linkLabels_append_of_not_mem hplain rest
    rw [← hskip, ← hhidden]
    simp [written, label?]

theorem not_mem_written {part : ProsePart} (h : part.Proper) : backtick ∉ part.written := by
  have hmarks : backtick ≠ '[' ∧ backtick ≠ ']' ∧ backtick ≠ '(' ∧ backtick ≠ ')' := by decide
  cases part with
  | plain text => exact h.2
  | full text label => simp [written, h.1.1.2, h.2.1.2, hmarks]
  | collapsed text => simp [written, h.1.2, hmarks]
  | shortcut text => simp [written, h.1.2, hmarks]
  | inlined text target => simp [written, h.1.1.2, h.2.2, hmarks]

theorem not_mem_line {parts : List ProsePart} (h : Readable parts) : backtick ∉ line parts := by
  induction parts with
  | nil => exact List.not_mem_nil
  | cons part rest ih =>
    obtain ⟨hpart, -, hrest⟩ := h
    rw [line, List.flatMap_cons, List.mem_append, not_or]
    exact ⟨not_mem_written hpart, ih hrest⟩

/-- Part by part, the links of a line are read off. -/
theorem linkLabels_line {parts : List ProsePart} (h : Readable parts) :
    linkLabels (line parts) = parts.filterMap label? := by
  induction parts with
  | nil => rfl
  | cons part rest ih =>
    obtain ⟨hpart, hfollow, hrest⟩ := h
    have hstep := linkLabels_written hpart hfollow
    rw [ih hrest] at hstep
    rw [line, List.flatMap_cons, ← line, hstep]
    cases hl : part.label? <;> simp [hl]

/-- A readable line gives back the labels that its parts refer to, from left to right and in the form in
which labels are compared, and no others. -/
theorem usedLabels_line {parts : List ProsePart} (h : Readable parts) :
    usedLabels (line parts) = (parts.filterMap label?).map labelKey := by
  rw [usedLabels_of_not_mem (not_mem_line h), linkLabels_line h]

/-- All kinds of parts in one line, some without a space in between. -/
theorem usedLabels_line_of_neighbours :
    let parts := [.plain "See !".toList, .full "the docs".toList "Docs".toList, .shortcut "API".toList,
      .plain ", ".toList, .inlined "a".toList "b".toList, .collapsed "Change\tlog".toList, .shortcut "x".toList]
    Readable parts ∧ line parts = "See ![the docs][Docs][API], [a](b)[Change\tlog][][x]".toList ∧
      usedLabels (line parts) = ["docs".toList, "api".toList, "change log".toList, "x".toList] := by
  intro parts
  have hread : Readable parts := by decide
  refine ⟨hread, by decide, ?_⟩
  rw [usedLabels_line hread]
  decide

end ProsePart

end MarkdownStyle
