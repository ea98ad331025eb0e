/-
What a line is in its place. The pass settles the role of a line from the state that the lines above
it leave and from the line directly below it, and from nothing else. So the classification is known
place by place, and what stands below a place is classified from the state there.
-/
import MarkdownStyle.Proofs.Line.Fence
import MarkdownStyle.Proofs.Line.Pass

namespace MarkdownStyle

/-! ## Settled roles -/

namespace LineScan

/-- The role of the next line once the line below it is known. -/
def finalRole (s : LineScan) (line : Text) (rest : List Text) : LineRole :=
  (s.role line).settled line (rest.head?.map (s.next line).role)

theorem finalRole_underlined {s : LineScan} {line : Text} {rest : List Text} {level : Nat}
    (h : rest.head?.map (s.next line).role = some (.underline level)) :
    s.finalRole line rest = .underlinedText level (Text.trim line) := by
  rw [finalRole, h, settled_underline]

/-- The line is the text of a heading, or keeps the role that it has at first. -/
theorem finalRole_cases (s : LineScan) (line : Text) (rest : List Text) :
    (∃ level, rest.head?.map (s.next line).role = some (.underline level) ∧
        underlines level (some (s.role line)) = true ∧
        s.finalRole line rest = .underlinedText level (Text.trim line)) ∨
      (∀ level, rest.head?.map (s.next line).role ≠ some (.underline level)) ∧
        s.finalRole line rest = s.role line := by
  by_cases hb : ∃ level, rest.head?.map (s.next line).role = some (.underline level)
  · obtain ⟨level, hb⟩ := hb
    obtain ⟨z, -, hz⟩ := Option.map_eq_some_iff.1 hb
    exact .inl ⟨level, hb, (role_eq_underline hz).2.2.2, finalRole_underlined hb⟩
  · have hb : ∀ level, rest.head?.map (s.next line).role ≠ some (.underline level) := fun level h => hb ⟨level, h⟩
    exact .inr ⟨hb, settled_of_not_underline hb⟩

theorem finalRole_congr {s s' : LineScan} {line : Text} {rest rest' : List Text} (hr : s'.role line = s.role line)
    (hbelow : ∀ level, rest'.head?.map (s'.next line).role = some (.underline level) ↔
      rest.head?.map (s.next line).role = some (.underline level)) :
    s'.finalRole line rest' = s.finalRole line rest := by
  rcases s.finalRole_cases line rest with ⟨level, hb, -, h⟩ | ⟨hb, h⟩
  · rw [h, finalRole_underlined ((hbelow level).2 hb)]
  · rw [h, finalRole, settled_of_not_underline fun level hl => hb level ((hbelow level).1 hl), hr]

theorem role_of_finalRole {s : LineScan} {line : Text} {rest : List Text} {role : LineRole}
    (h : s.finalRole line rest = role) (hu : role.isUnderlined = false) :
    s.role line = role ∧ ∀ level, rest.head?.map (s.next line).role ≠ some (.underline level) := by
  rcases s.finalRole_cases line rest with ⟨level, -, -, hl⟩ | ⟨hb, hr⟩
  · rw [← h, hl] at hu; cases hu
  · exact ⟨hr.symm.trans h, hb⟩

/-- A role that no underline fits is settled at once. -/
theorem finalRole_eq_iff {s : LineScan} {line : Text} {rest : List Text} {role : LineRole}
    (hu : role.isUnderlined = false) (hn : ∀ level, underlines level (some role) = false) :
    s.finalRole line rest = role ↔ s.role line = role := by
  rcases s.finalRole_cases line rest with ⟨level, -, hfits, h⟩ | ⟨-, h⟩
  · rw [h]
    constructor
    · rintro rfl
      cases hu
    · rintro rfl
      rw [hn] at hfits
      cases hfits
  · rw [h]

theorem finalRole_isFenced {s : LineScan} {line : Text} {rest : List Text} {role : LineRole}
    (hf : role.isFenced = true) : s.finalRole line rest = role ↔ s.role line = role := by
  refine finalRole_eq_iff ?_ fun _ => ?_
  · cases role <;> first | rfl | cases hf
  · cases role <;> first | rfl | cases hf

theorem underline_of_finalRole {s : LineScan} {line : Text} {rest : List Text} {level : Nat} {heading : Text}
    (h : s.finalRole line rest = .underlinedText level heading) :
    rest.head?.map (s.next line).role = some (.underline level) := by
  rcases s.finalRole_cases line rest with ⟨l, hb, -, hl⟩ | ⟨-, hr⟩
  · rw [h] at hl
    cases hl
    exact hb
  · have := s.role_isUnderlined line
    rw [← hr, h] at this
    cases this

theorem isOpen_of_role {s : LineScan} {line : Text} (hf : s.role line ≠ .fence) (hc : s.role line ≠ .code) :
    s.fence.isOpen = false := by
  cases ho : s.fence.isOpen with
  | false => rfl
  | true =>
    cases hd : (s.fence.step line).2 with
    | true => exact absurd ((s.role_eq_fence_iff line).2 hd) hf
    | false => exact absurd ((s.role_eq_code_iff line).2 ⟨hd, ho⟩) hc

/-! ## States of the pass -/

/-- The state of the pass after some lines. -/
def after (s : LineScan) (lines : List Text) : LineScan := lines.foldl next s

@[simp] theorem after_nil (s : LineScan) : s.after [] = s := rfl

@[simp] theorem after_cons (s : LineScan) (line : Text) (rest : List Text) :
    s.after (line :: rest) = (s.next line).after rest := rfl

theorem after_append (s : LineScan) (front back : List Text) :
    s.after (front ++ back) = (s.after front).after back :=
  List.foldl_append

/-- The pass carries the fence scan along. -/
theorem fence_after (s : LineScan) (lines : List Text) : (s.after lines).fence = s.fence.after lines := by
  induction lines generalizing s with
  | nil => rfl
  | cons line rest ih => exact ih (s.next line)

theorem after_take_succ {s : LineScan} {lines : List Text} {i : Nat} {line : Text} (h : lines[i]? = some line) :
    s.after (lines.take (i + 1)) = (s.after (lines.take i)).next line := by
  rw [List.take_add_one, h, after_append]
  rfl

end LineScan

/-! ## Lines in their places -/

theorem classifyFrom_eq_cons (s : LineScan) (number : Nat) (line : Text) (rest : List Text) :
    classifyFrom s number (line :: rest) =
      ⟨number, line, s.finalRole line rest⟩ :: classifyFrom (s.next line) (number + 1) rest := by
  rw [classifyFrom_cons, settled_head]
  rfl

/-- What stands below a place is classified from the state there. -/
theorem drop_classifyFrom (s : LineScan) (number k : Nat) (lines : List Text) :
    (classifyFrom s number lines).drop k = classifyFrom (s.after (lines.take k)) (number + k) (lines.drop k) := by
  induction lines generalizing s number k with
  | nil => cases k <;> rfl
  | cons line rest ih =>
    cases k with
    | zero => rfl
    | succ k =>
      rw [classifyFrom_eq_cons, List.drop_succ_cons, ih, Nat.add_assoc, Nat.add_comm 1]
      rfl

/-- Each line is classified from the state that the lines above it leave. -/
theorem getElem?_classifyFrom (s : LineScan) (number : Nat) (lines : List Text) (i : Nat) :
    (classifyFrom s number lines)[i]? = lines[i]?.map fun line =>
      ⟨number + i, line, (s.after (lines.take i)).finalRole line (lines.drop (i + 1))⟩ := by
  induction lines generalizing s number i with
  | nil => rfl
  | cons line rest ih =>
    rw [classifyFrom_eq_cons]
    cases i with
    | zero => rfl
    | succ i =>
      rw [List.getElem?_cons_succ, ih, Nat.add_assoc, Nat.add_comm 1]
      rfl

theorem getElem?_classify {lines : List Text} {i : Nat} {line : Text} (h : lines[i]? = some line) :
    (classify lines)[i]? =
      some ⟨i + 1, line, (LineScan.start.after (lines.take i)).finalRole line (lines.drop (i + 1))⟩ := by
  rw [classify, getElem?_classifyFrom, h, Option.map_some, Nat.add_comm 1]

theorem getElem?_classify_eq_some {lines : List Text} {i : Nat} {line : Line} :
    (classify lines)[i]? = some line ↔ lines[i]? = some line.text ∧ line.number = i + 1 ∧
      line.role = (LineScan.start.after (lines.take i)).finalRole line.text (lines.drop (i + 1)) := by
  rw [classify, getElem?_classifyFrom, Option.map_eq_some_iff, Nat.add_comm 1]
  constructor
  · rintro ⟨text, ht, rfl⟩
    exact ⟨ht, rfl, rfl⟩
  · rintro ⟨ht, hn, hr⟩
    refine ⟨line.text, ht, ?_⟩
    rw [← hr, ← hn]

end MarkdownStyle
