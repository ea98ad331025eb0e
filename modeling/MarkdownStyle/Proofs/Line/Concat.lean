/-
Documents put one below the other. A line is classified alike whatever stands below it, except that
the last line of the upper document becomes underlined if the lower one starts with an underline.
Where no block of code is open and the last line is of a kind that the next one does not look at,
both documents are classified as on their own.
-/
import MarkdownStyle.Proofs.Line.Place

namespace MarkdownStyle

/-- A line of this role has no part in what the line below it is. -/
def LineRole.separates : LineRole → Bool
  | blank | fence | hashHeading .. | underline _ => true
  | _ => false

theorem LineRole.underlines_of_separates {role : LineRole} (h : role.separates = true) (level : Nat) :
    underlines level (some role) = false := by
  cases role <;> first | rfl | cases h

theorem LineRole.inDefinition_of_separates {role : LineRole} (h : role.separates = true) :
    inDefinition (some role) = false := by
  cases role <;> first | rfl | cases h

theorem LineRole.isUnderlined_of_separates {role : LineRole} (h : role.separates = true) :
    role.isUnderlined = false := by
  cases role <;> first | rfl | cases h

def Line.moved (line : Line) (count : Nat) : Line := { line with number := line.number + count }

/-! ## Separated states -/

/-- Only whether it can be underlined or continued counts of the line above. -/
theorem outsideRole_congr {above above' : Option LineRole}
    (hu : ∀ level, underlines level above' = underlines level above)
    (hd : inDefinition above' = inDefinition above) (line : Text) :
    outsideRole above' line = outsideRole above line := by
  have hplain : plainRole above' line = plainRole above line := by
    rw [plainRole_eq above, plainRole_eq above', hd]
  unfold outsideRole
  rw [hplain]
  split
  · rw [hu]
  · rfl

namespace LineScan

/-- The pass stands as at the start of a document, as far as the lines to come can tell. -/
structure Separated (s : LineScan) : Prop where
  fence : s.fence = .outside
  above : ∀ role ∈ s.above, role.separates = true

theorem Separated.role_eq {s : LineScan} (h : s.Separated) (line : Text) : s.role line = start.role line := by
  have houtside : outsideRole s.above line = outsideRole none line := by
    rcases ha : s.above with _ | role
    · rfl
    · have hr := h.above role ha
      exact outsideRole_congr (role.underlines_of_separates hr) (role.inDefinition_of_separates hr) line
  rw [s.role_eq, start.role_eq, h.fence, houtside]
  rfl

theorem Separated.next_eq {s : LineScan} (h : s.Separated) (line : Text) : s.next line = start.next line := by
  unfold next
  rw [h.role_eq, h.fence]
  rfl

end LineScan

theorem classifyFrom_of_separated {s : LineScan} (h : s.Separated) (number : Nat) (lines : List Text) :
    classifyFrom s number lines = classifyFrom .start number lines := by
  cases lines with
  | nil => rfl
  | cons line rest =>
    rw [classifyFrom_eq_cons, classifyFrom_eq_cons, LineScan.finalRole, LineScan.finalRole, h.role_eq, h.next_eq]

/-- Where a document starts only moves its lines. -/
theorem classifyFrom_add (s : LineScan) (number count : Nat) (lines : List Text) :
    classifyFrom s (number + count) lines = (classifyFrom s number lines).map (·.moved count) := by
  induction lines generalizing s number with
  | nil => rfl
  | cons line rest ih =>
    rw [classifyFrom_eq_cons, classifyFrom_eq_cons, List.map_cons, ← ih, Nat.add_right_comm]
    rfl

/-! ## The line at the cut -/

/-- The pass remembers the role of the last line. -/
theorem above_after (lines : List Text) :
    (LineScan.start.after lines).above = (classify lines).getLast?.map (·.role) := by
  rcases List.eq_nil_or_concat lines with rfl | ⟨front, line, rfl⟩
  · rfl
  · rw [List.concat_eq_append]
    have hlast : (front ++ [line])[front.length]? = some line := by simp
    rw [List.getLast?_eq_getElem?, length_classify, List.length_append, List.length_singleton,
      Nat.add_sub_cancel, getElem?_classify hlast, LineScan.after_append, List.take_left,
      List.drop_eq_nil_of_le (by simp)]
    rfl

theorem separated_after {lines : List Text} (ho : (FenceState.outside.after lines).isOpen = false)
    (hl : ∀ line ∈ (classify lines).getLast?, line.role.separates = true) :
    (LineScan.start.after lines).Separated := by
  constructor
  · rw [LineScan.fence_after]
    exact (FenceState.after_outside_or_open (.inl rfl) lines).resolve_right (by simp [ho])
  · intro role hr
    rw [above_after] at hr
    obtain ⟨line, hline, rfl⟩ := Option.map_eq_some_iff.1 hr
    exact hl line hline

section Append

variable {xs ys : List Text} {i : Nat} {line : Line}

theorem getElem?_classify_append (h : (classify xs)[i]? = some line) :
    (classify (xs ++ ys))[i]? = some { line with
      role := (LineScan.start.after (xs.take i)).finalRole line.text (xs.drop (i + 1) ++ ys) } := by
  obtain ⟨htext, hnumber, -⟩ := getElem?_classify_eq_some.1 h
  obtain ⟨hlt, -⟩ := List.getElem?_eq_some_iff.1 htext
  have happend : (xs ++ ys)[i]? = some line.text := by rw [List.getElem?_append_left hlt, htext]
  rw [getElem?_classify happend, List.take_append_of_le_length (by omega),
    List.drop_append_of_le_length (by omega), hnumber]

/-- Above the last line nothing changes. -/
theorem getElem?_classify_append_of_lt (h : (classify xs)[i]? = some line) (hi : i + 1 < xs.length) :
    (classify (xs ++ ys))[i]? = some line := by
  obtain ⟨-, -, hrole⟩ := getElem?_classify_eq_some.1 h
  have hhead : (xs.drop (i + 1) ++ ys).head? = (xs.drop (i + 1)).head? := by
    rw [List.head?_append_of_ne_nil _ (by simpa using hi)]
  rw [getElem?_classify_append h, LineScan.finalRole, hhead]
  exact congrArg some (by rw [← LineScan.finalRole, ← hrole])

/-- The last line keeps its role if no underline fits it. -/
theorem getElem?_classify_append_of_separates (h : (classify xs)[i]? = some line) (hi : i + 1 = xs.length)
    (hs : line.role.separates = true) : (classify (xs ++ ys))[i]? = some line := by
  obtain ⟨-, -, hrole⟩ := getElem?_classify_eq_some.1 h
  rw [List.drop_eq_nil_of_le (by omega)] at hrole
  have hu := line.role.isUnderlined_of_separates hs
  have hn := line.role.underlines_of_separates hs
  -- no underline fits the role, in front of no lines as in front of more
  have hfirst := (LineScan.finalRole_eq_iff hu hn).1 hrole.symm
  rw [getElem?_classify_append h, (LineScan.finalRole_eq_iff hu hn).2 hfirst]

/-- The last line keeps its role unless it becomes underlined. -/
theorem getElem?_classify_append_last (h : (classify xs)[i]? = some line) (hi : i + 1 = xs.length) :
    (classify (xs ++ ys))[i]? = some line ∨
      ∃ level, (classify (xs ++ ys))[i + 1]?.map (·.role) = some (.underline level) ∧
        (classify (xs ++ ys))[i]? = some { line with role := .underlinedText level (Text.trim line.text) } := by
  obtain ⟨-, -, hrole⟩ := getElem?_classify_eq_some.1 h
  have happend := @getElem?_classify_append xs ys i line h
  rw [List.drop_eq_nil_of_le (by omega)] at hrole happend
  generalize LineScan.start.after (xs.take i) = s at hrole happend
  rcases (paired_classifyFrom .start 1 (xs ++ ys)).getElem? happend with ⟨level, hbelow, hu⟩ | ⟨-, hu⟩
  · have hu : s.finalRole line.text ([] ++ ys) = .underlinedText level (Text.trim line.text) := hu
    exact .inr ⟨level, hbelow, by rw [happend, hu]⟩
  · rcases s.finalRole_cases line.text ([] ++ ys) with ⟨level, -, -, hkept⟩ | ⟨-, hkept⟩
    · simp only [hkept] at hu
      cases hu
    · -- nothing underlines the line, in front of the lines below as in front of none
      have hkept : s.finalRole line.text ([] ++ ys) = line.role := hkept.trans hrole.symm
      exact .inl (by rw [happend, hkept])

end Append

/-! ## Concatenation -/

theorem take_classify_append {xs : List Text} (hl : ∀ line ∈ (classify xs).getLast?, line.role.separates = true)
    (ys : List Text) : (classify (xs ++ ys)).take xs.length = classify xs := by
  apply List.ext_getElem?
  intro i
  rw [List.getElem?_take]
  split
  · rename_i hi
    obtain ⟨line, hget⟩ : ∃ line, (classify xs)[i]? = some line :=
      ⟨_, List.getElem?_eq_getElem (hi.trans_eq (length_classify xs).symm)⟩
    rw [hget]
    by_cases hlast : i + 1 = xs.length
    · refine getElem?_classify_append_of_separates hget hlast (hl line ?_)
      rw [List.getLast?_eq_getElem?, length_classify, ← hlast, Nat.add_sub_cancel, hget]
      rfl
    · exact getElem?_classify_append_of_lt hget (by omega)
  · rw [List.getElem?_eq_none (by rw [length_classify]; omega)]

/-- Above the cut only the last line can change, and only into the text of a heading whose underline
is the first line below. Where the lines above the cut leave nothing open, both sides are classified
as on their own. -/
theorem classify_append (xs ys : List Text) :
    (∀ i line, (classify xs)[i]? = some line →
      (classify (xs ++ ys))[i]? = some line ∨
        i + 1 = xs.length ∧ ∃ level, (classify (xs ++ ys))[i + 1]?.map (·.role) = some (.underline level) ∧
          (classify (xs ++ ys))[i]? = some { line with role := .underlinedText level (Text.trim line.text) }) ∧
      ((FenceState.outside.after xs).isOpen = false →
        (∀ line ∈ (classify xs).getLast?, line.role.separates = true) →
          classify (xs ++ ys) = classify xs ++ (classify ys).map (·.moved xs.length)) := by
  constructor
  · intro i line h
    obtain ⟨hi, -⟩ := List.getElem?_eq_some_iff.1 (getElem?_classify_eq_some.1 h).1
    rcases Nat.lt_or_ge (i + 1) xs.length with hlt | hge
    · exact .inl (getElem?_classify_append_of_lt h hlt)
    · have hlast : i + 1 = xs.length := by omega
      exact (getElem?_classify_append_last h hlast).imp_right fun hu => ⟨hlast, hu⟩
  · intro ho hl
    rw [← List.take_append_drop xs.length (classify (xs ++ ys)), take_classify_append hl]
    congr 1
    rw [classify, drop_classifyFrom, List.take_left, List.drop_left,
      classifyFrom_of_separated (separated_after ho hl), classifyFrom_add]
    rfl

/-- Below a closed block of code a document starts anew, and its heading keeps its underline. -/
theorem classify_append_below_fence :
    let xs := ["~~~", "a", "~~~"].map String.toList
    let ys := ["b", "==="].map String.toList
    (FenceState.outside.after xs).isOpen = false ∧
      (∀ line ∈ (classify xs).getLast?, line.role.separates = true) ∧
        classify (xs ++ ys) = classify xs ++ (classify ys).map (·.moved xs.length) :=
  ⟨by decide, by decide, (classify_append _ _).2 (by decide) (by decide)⟩

end MarkdownStyle
