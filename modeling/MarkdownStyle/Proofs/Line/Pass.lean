/-
The classification pass, step by step: when a line gets which role, and what the finished
classification looks like. It has one line for each text, numbered from where the pass starts,
and the lines with underlined text are exactly those with an underline directly below.
-/
import MarkdownStyle.Line.Classify
import Mathlib.Tactic

namespace MarkdownStyle

/-! ## Roles of single lines -/

theorem hashHeading?_some {line : Text} {role : LineRole} (h : hashHeading? line = some role) :
    ∃ level heading, role = .hashHeading level heading ∧ 1 ≤ level ∧ level ≤ 6 := by
  unfold hashHeading? at h
  simp only at h
  split at h
  · rename_i hl
    cases h
    simp only [Bool.and_eq_true, decide_eq_true_eq] at hl
    exact ⟨_, _, rfl, hl.1.1, hl.1.2⟩
  · cases h

/-- Whether a plain line below belongs to a link definition. -/
def inDefinition : Option LineRole → Bool
  | some (.definition _) | some .continuation => true
  | _ => false

/-- The line above matters for plain text only: below a link definition it continues it. -/
theorem plainRole_eq (above : Option LineRole) (line : Text) :
    plainRole above line =
      if plainRole none line = .text ∧ inDefinition above = true then .continuation
      else plainRole none line := by
  unfold plainRole
  by_cases hb : Text.isAllBlank line = true
  · simp [hb]
  · rw [if_neg hb, if_neg hb]
    rcases hh : hashHeading? line with _ | role
    · simp only
      by_cases ht : isThematicBreak line = true
      · simp [ht]
      · rw [if_neg ht, if_neg ht]
        rcases definitionLabel? line with _ | label
        · rcases above with _ | role <;> simp [inDefinition]
          cases role <;> simp
        · simp
    · obtain ⟨level, heading, rfl, -⟩ := hashHeading?_some hh
      simp

/-- The roles that the shape of a line alone can give it. -/
inductive Shape : Text → LineRole → Prop
  | blank {line} : Text.isAllBlank line = true → Shape line .blank
  | hashHeading {line} {level : Nat} {heading : Text} :
    Text.isAllBlank line = false → hashHeading? line = some (.hashHeading level heading) →
      1 ≤ level → level ≤ 6 → Shape line (.hashHeading level heading)
  | thematicBreak {line} : Text.isAllBlank line = false → hashHeading? line = none →
      isThematicBreak line = true → Shape line .thematicBreak
  | definition {line} {label : Text} : Text.isAllBlank line = false → hashHeading? line = none →
      isThematicBreak line = false → definitionLabel? line = some label → Shape line (.definition label)
  | text {line} : Text.isAllBlank line = false → hashHeading? line = none →
      isThematicBreak line = false → definitionLabel? line = none → Shape line .text

theorem shape_plainRole (line : Text) : Shape line (plainRole none line) := by
  unfold plainRole
  by_cases hb : Text.isAllBlank line = true
  · rw [if_pos hb]; exact .blank hb
  · rw [if_neg hb]
    rw [Bool.not_eq_true] at hb
    rcases hh : hashHeading? line with _ | role
    · simp only
      by_cases ht : isThematicBreak line = true
      · rw [if_pos ht]; exact .thematicBreak hb hh ht
      · rw [if_neg ht]
        rw [Bool.not_eq_true] at ht
        rcases hd : definitionLabel? line with _ | label
        · exact .text hb hh ht hd
        · exact .definition hb hh ht hd
    · obtain ⟨level, heading, rfl, h1, h6⟩ := hashHeading?_some hh
      exact .hashHeading hb hh h1 h6

/-! ## Roles within the pass -/

/-- The role of a line outside fenced code, given the role of the line above. -/
def outsideRole (above : Option LineRole) (line : Text) : LineRole :=
  match underlineLevel? line with
  | some level => if underlines level above then .underline level else plainRole above line
  | none => plainRole above line

theorem LineScan.role_eq (s : LineScan) (line : Text) :
    s.role line = if (s.fence.step line).2 then .fence
      else if s.fence.isOpen then .code else outsideRole s.above line := rfl

theorem outsideRole_eq_underline_iff {above : Option LineRole} {line : Text} {level : Nat} :
    outsideRole above line = .underline level ↔
      underlineLevel? line = some level ∧ underlines level above = true := by
  have hp : plainRole above line ≠ .underline level := by
    have hs := shape_plainRole line
    rw [plainRole_eq]
    generalize plainRole none line = role at hs
    cases hs <;> split_ifs <;> simp
  unfold outsideRole
  rcases underlineLevel? line with _ | l
  · simpa using hp
  · by_cases hu : underlines l above = true
    · simp only [hu, ↓reduceIte, LineRole.underline.injEq, Option.some.injEq]
      constructor
      · rintro rfl; exact ⟨rfl, hu⟩
      · rintro ⟨rfl, -⟩; rfl
    · simp only [hu, Bool.false_eq_true, ↓reduceIte, Option.some.injEq]
      constructor
      · intro h; exact absurd h hp
      · rintro ⟨rfl, h⟩; exact absurd h hu

/-- Outside fenced code a line is an underline, or has the role of its shape and place. -/
theorem outsideRole_cases (above : Option LineRole) (line : Text) :
    (∃ level, outsideRole above line = .underline level) ∨ outsideRole above line = plainRole above line := by
  unfold outsideRole
  rcases underlineLevel? line with _ | level
  · exact .inr rfl
  · by_cases hu : underlines level above = true
    · exact .inl ⟨level, if_pos hu⟩
    · exact .inr (if_neg hu)

theorem outsideRole_isFenced (above : Option LineRole) (line : Text) :
    (outsideRole above line).isFenced = false := by
  rcases outsideRole_cases above line with ⟨level, h⟩ | h
  · rw [h]; rfl
  · have hs := shape_plainRole line
    rw [h, plainRole_eq]
    generalize plainRole none line = role at hs
    cases hs <;> split_ifs <;> rfl

theorem LineScan.role_eq_fence_iff (s : LineScan) (line : Text) :
    s.role line = .fence ↔ (s.fence.step line).2 = true := by
  have h := outsideRole_isFenced s.above line
  rw [s.role_eq]
  split_ifs with hd ho
  · simp [hd]
  · simp [hd]
  · constructor
    · intro hf; rw [hf] at h; cases h
    · intro hf; exact absurd hf hd

theorem LineScan.role_eq_code_iff (s : LineScan) (line : Text) :
    s.role line = .code ↔ (s.fence.step line).2 = false ∧ s.fence.isOpen = true := by
  have h := outsideRole_isFenced s.above line
  rw [s.role_eq]
  split_ifs with hd ho
  · simp [hd]
  · simp [hd, ho]
  · constructor
    · intro hc; rw [hc] at h; cases h
    · rintro ⟨-, hc⟩; exact absurd hc ho

theorem LineScan.role_eq_underline {s : LineScan} {line : Text} {level : Nat}
    (h : s.role line = .underline level) :
    (s.fence.step line).2 = false ∧ s.fence.isOpen = false ∧ underlineLevel? line = some level ∧
      underlines level s.above = true := by
  rw [s.role_eq] at h
  split_ifs at h with hd ho
  exact ⟨by simpa using hd, by simpa using ho, outsideRole_eq_underline_iff.1 h⟩

/-- Only the pass over the line below finds out that a line is underlined. -/
theorem LineScan.role_isUnderlined (s : LineScan) (line : Text) : (s.role line).isUnderlined = false := by
  rw [s.role_eq]
  split_ifs
  · rfl
  · rfl
  · rcases outsideRole_cases s.above line with ⟨level, h⟩ | h
    · rw [h]; rfl
    · have hs := shape_plainRole line
      rw [h, plainRole_eq]
      generalize plainRole none line = role at hs
      cases hs <;> split_ifs <;> rfl

/-- What is underlined is text, a definition with its continuation, or a break. -/
theorem underlines_iff {level : Nat} {above : Option LineRole} :
    underlines level above = true ↔
      above = some .text ∨
        level = 1 ∧ (inDefinition above = true ∨ above = some .thematicBreak) := by
  rcases above with _ | role
  · simp [underlines, inDefinition]
  · cases role <;> simp [underlines, inDefinition]

/-! ## The finished classification -/

theorem classifyFrom_cons (s : LineScan) (number : Nat) (line : Text) (rest : List Text) :
    classifyFrom s number (line :: rest) =
      ⟨number, line, (s.role line).settled line
        ((classifyFrom (s.next line) (number + 1) rest).head?.map (·.role))⟩ ::
        classifyFrom (s.next line) (number + 1) rest := rfl

theorem length_classifyFrom : ∀ (s : LineScan) (number : Nat) (lines : List Text),
    (classifyFrom s number lines).length = lines.length
  | _, _, [] => rfl
  | s, number, line :: rest => by
    rw [classifyFrom_cons, List.length_cons, List.length_cons, length_classifyFrom]

theorem length_classify (lines : List Text) : (classify lines).length = lines.length := length_classifyFrom ..

theorem map_text_classifyFrom : ∀ (s : LineScan) (number : Nat) (lines : List Text),
    (classifyFrom s number lines).map (·.text) = lines
  | _, _, [] => rfl
  | s, number, line :: rest => by
    rw [classifyFrom_cons, List.map_cons, map_text_classifyFrom]

theorem map_number_classifyFrom : ∀ (s : LineScan) (number : Nat) (lines : List Text),
    (classifyFrom s number lines).map (·.number) = List.range' number lines.length
  | _, _, [] => rfl
  | s, number, line :: rest => by
    rw [classifyFrom_cons, List.map_cons, map_number_classifyFrom, List.length_cons, List.range'_succ]

theorem settled_of_not_underline {role : LineRole} {line : Text} {below : Option LineRole}
    (h : ∀ level, below ≠ some (.underline level)) : role.settled line below = role := by
  unfold LineRole.settled
  split
  · rename_i level; exact absurd rfl (h level)
  · rfl

@[simp] theorem settled_underline (role : LineRole) (line : Text) (level : Nat) :
    role.settled line (some (.underline level)) = .underlinedText level (Text.trim line) := rfl

/-- An underline is not underlined itself, so a line starts as an underline iff it ends as one. -/
theorem head_eq_underline_iff (s : LineScan) (number : Nat) (lines : List Text) (level : Nat) :
    (classifyFrom s number lines).head?.map (·.role) = some (.underline level) ↔
      lines.head?.map s.role = some (.underline level) := by
  induction lines generalizing s number level with
  | nil => simp [classifyFrom]
  | cons line rest ih =>
    simp only [classifyFrom_cons, List.head?_cons, Option.map_some, Option.some.injEq]
    constructor
    · intro h
      by_cases hb : ∃ l, (classifyFrom (s.next line) (number + 1) rest).head?.map (·.role) = some (.underline l)
      · obtain ⟨l, hb⟩ := hb
        rw [hb, settled_underline] at h
        cases h
      · rwa [settled_of_not_underline fun l hl => hb ⟨l, hl⟩] at h
    · intro h
      rwa [settled_of_not_underline]
      intro l hl
      rw [ih] at hl
      obtain ⟨below, -, hl⟩ := Option.map_eq_some_iff.1 hl
      obtain ⟨-, -, -, hu⟩ := LineScan.role_eq_underline hl
      -- the line below would underline an underline
      rw [LineScan.next, h, underlines_iff] at hu
      simp [inDefinition] at hu

/-- The line below as the pass first sees it is enough to settle a role. -/
theorem settled_head (s : LineScan) (number : Nat) (role : LineRole) (line : Text) (rest : List Text) :
    role.settled line ((classifyFrom s number rest).head?.map (·.role)) =
      role.settled line (rest.head?.map s.role) := by
  by_cases hb : ∃ level, rest.head?.map s.role = some (.underline level)
  · obtain ⟨level, hb⟩ := hb
    rw [hb, (head_eq_underline_iff s number rest level).2 hb]
  · rw [settled_of_not_underline fun l hl => hb ⟨l, (head_eq_underline_iff s number rest l).1 hl⟩,
      settled_of_not_underline fun l hl => hb ⟨l, hl⟩]

/-- A role is settled by an underline below, which fits the role, or stays as it is. -/
theorem settled_cases (s : LineScan) (number : Nat) (line : Text) (rest : List Text) :
    let below := (classifyFrom (s.next line) number rest).head?.map (·.role)
    (∃ level, below = some (.underline level) ∧ underlines level (some (s.role line)) = true ∧
        (s.role line).settled line below = .underlinedText level (Text.trim line)) ∨
      (∀ level, below ≠ some (.underline level)) ∧ (s.role line).settled line below = s.role line := by
  intro below
  by_cases hb : ∃ level, below = some (.underline level)
  · obtain ⟨level, hb⟩ := hb
    obtain ⟨next, -, hl⟩ := Option.map_eq_some_iff.1 ((head_eq_underline_iff _ _ _ _).1 hb)
    exact .inl ⟨level, hb, (LineScan.role_eq_underline hl).2.2.2, by rw [hb, settled_underline]⟩
  · exact .inr ⟨fun level hl => hb ⟨level, hl⟩, settled_of_not_underline fun level hl => hb ⟨level, hl⟩⟩

/-- Fences and the lines between them are settled at once. -/
theorem settled_isFenced (s : LineScan) (number : Nat) (line : Text) (rest : List Text) (role : LineRole)
    (hr : role.isFenced = true) :
    (s.role line).settled line ((classifyFrom (s.next line) number rest).head?.map (·.role)) = role ↔
      s.role line = role := by
  rcases settled_cases s number line rest with ⟨level, -, hu, h⟩ | ⟨-, h⟩
  · rw [h]
    constructor
    · rintro rfl; cases hr
    · -- no underline fits a fence or a line of code
      rintro rfl
      rcases hrole : s.role line <;> simp_all [LineRole.isFenced, underlines]
  · rw [h]

/-- Underlined text stands exactly above underlines, and has their level. -/
def Paired : List Line → Prop
  | [] => True
  | line :: rest =>
    (match (rest.head?.map (·.role) : Option LineRole) with
      | some (.underline level) => line.role = .underlinedText level (Text.trim line.text)
      | _ => line.role.isUnderlined = false) ∧ Paired rest

theorem paired_classifyFrom : ∀ (s : LineScan) (number : Nat) (lines : List Text),
    Paired (classifyFrom s number lines)
  | _, _, [] => trivial
  | s, number, line :: rest => by
    refine ⟨?_, paired_classifyFrom (s.next line) (number + 1) rest⟩
    split
    · rename_i level h
      rw [h, settled_underline]
    · rename_i h
      rw [settled_of_not_underline h]
      exact s.role_isUnderlined line

/-- A line is underlined text if an underline stands below it, and otherwise it is not underlined. -/
theorem Paired.getElem? {doc : List Line} (h : Paired doc) {i : Nat} {line : Line} (hi : doc[i]? = some line) :
    (∃ level, doc[i + 1]?.map (·.role) = some (.underline level) ∧
        line.role = .underlinedText level (Text.trim line.text)) ∨
      (∀ level, doc[i + 1]?.map (·.role) ≠ some (.underline level)) ∧ line.role.isUnderlined = false := by
  induction doc generalizing i with
  | nil => cases hi
  | cons top rest ih =>
    cases i with
    | zero =>
      cases hi
      obtain ⟨hpair, -⟩ := h
      rw [List.head?_eq_getElem?] at hpair
      rw [List.getElem?_cons_succ]
      split at hpair
      · rename_i level hbelow
        exact .inl ⟨level, hbelow, hpair⟩
      · rename_i hbelow
        exact .inr ⟨hbelow, hpair⟩
    | succ i => exact ih h.2 hi

end MarkdownStyle
