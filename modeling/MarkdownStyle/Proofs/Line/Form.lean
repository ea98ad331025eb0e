/-
The form of a classification. Each line has its number and its text, and a level, a label and
blankness as its role says. Neighbours fit together: text is underlined exactly above an underline,
which gives it its level, and a continuation stands directly below what it continues. Both hold of
the finished classification, in which lines were given other roles after the line below was read.
-/
import MarkdownStyle.Proofs.Line.Place
import MarkdownStyle.Proofs.Line.Reading

namespace MarkdownStyle

def LineRole.isUnderline : LineRole → Bool
  | underline _ => true
  | _ => false

theorem LineRole.isUnderline_iff {role : LineRole} : role.isUnderline = true ↔ ∃ level, role = .underline level := by
  cases role <;> simp [isUnderline]

/-! ## Well-formed classifications -/

/-- The accessors of a line agree with its role, and the role with whether the text is blank. -/
structure Line.Sound (line : Line) : Prop where
  /-- Lines of headings have a level from one to six, the others have none. -/
  level : if line.role.isHeading || line.role.isUnderline then 1 ≤ line.role.level ∧ line.role.level ≤ 6
    else line.role.level = 0
  label : line.role.label ≠ [] ↔ ∃ label, line.role = .definition label
  blank : line.role = .blank ↔ Text.isAllBlank line.text = true ∧ line.role.isFenced = false

/-- The classified lines of a document: each is sound, and neighbours fit together. Places are
counted from zero. -/
structure WellFormed (lines : List Text) (doc : List Line) : Prop where
  numbers : doc.map (·.number) = List.range' 1 lines.length
  texts : doc.map (·.text) = lines
  sound : ∀ line ∈ doc, line.Sound
  underlined_iff : ∀ (i : Nat) (line : Line), doc[i]? = some line →
    (line.role.isUnderlined = true ↔ ∃ below : Line, doc[i + 1]? = some below ∧ below.role.isUnderline = true)
  /-- An underline stands below its text, and its marker says their level. -/
  underline : ∀ (i : Nat) (below : Line), doc[i]? = some below → below.role.isUnderline = true →
    ∃ (j : Nat) (line : Line) (level : Nat), i = j + 1 ∧ doc[j]? = some line ∧
      line.role = .underlinedText level (Text.trim line.text) ∧ below.role = .underline level ∧
      (below.text.head? = some '=' ∧ level = 1 ∨ below.text.head? = some '-' ∧ level = 2)
  continuation : ∀ (i : Nat) (line : Line), doc[i]? = some line → line.role = .continuation →
    ∃ (j : Nat) (above : Line), i = j + 1 ∧ doc[j]? = some above ∧ inDefinition (some above.role) = true

/-! ## What the pass reads -/

/-- Everything that the pass can take a line for before it knows the line below. -/
inductive LineScan.Reads (s : LineScan) (line : Text) : LineRole → Prop
  | fence : Reads s line .fence
  | code : Reads s line .code
  | underline {level : Nat} :
    underlineLevel? line = some level → underlines level s.above = true → Reads s line (.underline level)
  | continuation : Text.isAllBlank line = false → inDefinition s.above = true → Reads s line .continuation
  | shape {role : LineRole} : Shape line role → Reads s line role

theorem Shape.isAllBlank_of_text {line : Text} (h : Shape line .text) : Text.isAllBlank line = false := by
  cases h
  assumption

theorem LineScan.reads (s : LineScan) (line : Text) : s.Reads line (s.role line) := by
  rw [s.role_eq]
  split_ifs
  · exact .fence
  · exact .code
  · rcases outsideRole_cases s.above line with ⟨level, h⟩ | h
    · rw [h]
      obtain ⟨hlevel, hfits⟩ := outsideRole_eq_underline_iff.1 h
      exact .underline hlevel hfits
    · rw [h, plainRole_eq]
      have hshape := shape_plainRole line
      split_ifs with hc
      · rw [hc.1] at hshape
        exact .continuation hshape.isAllBlank_of_text hc.2
      · exact .shape hshape

namespace LineScan.Reads

variable {s : LineScan} {line : Text} {role : LineRole}

theorem level (h : s.Reads line role) :
    if role.isHeading || role.isUnderline then 1 ≤ role.level ∧ role.level ≤ 6 else role.level = 0 := by
  cases h with
  | underline hlevel _ =>
    obtain ⟨c, rest, -, ⟨-, hl⟩ | ⟨-, hl⟩⟩ := cons_of_underlineLevel? hlevel <;>
      simp [LineRole.isUnderline, LineRole.level, hl]
  | shape hshape =>
    cases hshape with
    | hashHeading _ _ h1 h6 => simp [LineRole.isHeading, LineRole.level, h1, h6]
    | _ => rfl
  | _ => rfl

theorem label (h : s.Reads line role) : role.label ≠ [] ↔ ∃ label, role = .definition label := by
  cases h with
  | shape hshape =>
    cases hshape with
    | definition _ _ _ hlabel => simpa [LineRole.label] using definitionLabel?_ne_nil hlabel
    | _ => simp [LineRole.label]
  | _ => simp [LineRole.label]

theorem blank_iff (h : s.Reads line role) :
    role = .blank ↔ Text.isAllBlank line = true ∧ role.isFenced = false := by
  cases h with
  | underline hlevel _ => simp [isAllBlank_of_underlineLevel? hlevel]
  | continuation hblank _ => simp [hblank]
  | shape hshape => cases hshape <;> simp_all [LineRole.isFenced]
  | _ => simp [LineRole.isFenced]

theorem inDefinition_above (h : s.Reads line .continuation) : inDefinition s.above = true := by
  cases h with
  | continuation _ hd => exact hd
  | shape hshape => cases hshape

end LineScan.Reads

/-! ## Neighbours -/

namespace LineScan

variable {s : LineScan} {line below : Text} {rest : List Text} {level : Nat}

theorem finalRole_eq_underline_iff : s.finalRole line rest = .underline level ↔ s.role line = .underline level :=
  finalRole_eq_iff rfl fun _ => rfl

/-- What a continuation stands below keeps its role. -/
theorem inDefinition_above_continuation (h : (s.next line).finalRole below rest = .continuation) :
    inDefinition (some (s.finalRole line (below :: rest))) = true := by
  have hrole := (role_of_finalRole h rfl).1
  have hreads := (s.next line).reads below
  rw [hrole] at hreads
  have hkept : s.finalRole line (below :: rest) = s.role line := by
    rcases s.finalRole_cases line (below :: rest) with ⟨level, hunder, -⟩ | ⟨-, hkept⟩
    · rw [List.head?_cons, Option.map_some, hrole] at hunder
      cases hunder
    · exact hkept
  rw [hkept]
  exact hreads.inDefinition_above

end LineScan

/-- Neighbours are classified one after the other. -/
theorem exists_line_above {lines : List Text} {i : Nat} {below : Line} (h : (classify lines)[i + 1]? = some below) :
    ∃ (line : Line) (s : LineScan) (rest : List Text), (classify lines)[i]? = some line ∧
      line.role = s.finalRole line.text (below.text :: rest) ∧
      below.role = (s.next line.text).finalRole below.text rest := by
  obtain ⟨htext, -, hrole⟩ := getElem?_classify_eq_some.1 h
  obtain ⟨hlt, hget⟩ := List.getElem?_eq_some_iff.1 htext
  have hi : i < lines.length := by omega
  have habove : lines[i]? = some lines[i] := List.getElem?_eq_getElem hi
  have hdrop : lines.drop (i + 1) = below.text :: lines.drop (i + 1 + 1) := by
    rw [← hget, List.drop_eq_getElem_cons hlt]
  refine ⟨_, LineScan.start.after (lines.take i), lines.drop (i + 1 + 1), getElem?_classify habove, ?_, ?_⟩
  · simp only [hdrop]
  · rw [hrole, LineScan.after_take_succ habove]

/-! ## Documents -/

theorem line_sound {s : LineScan} {line : Line} {rest : List Text} (h : line.role = s.finalRole line.text rest) :
    line.Sound := by
  have hreads := s.reads line.text
  rcases s.finalRole_cases line.text rest with ⟨level, hbelow, hfits, hrole⟩ | ⟨-, hrole⟩
  · -- an underline has turned the line into the text of a heading, and has the same level
    obtain ⟨below, -, hbelow⟩ := Option.map_eq_some_iff.1 hbelow
    have hlevel := ((s.next line.text).reads below).level
    have hblank : s.role line.text ≠ .blank ∧ (s.role line.text).isFenced = false := by
      cases hr : s.role line.text <;> simp_all [underlines, LineRole.isFenced]
    rw [hbelow] at hlevel
    rw [hrole] at h
    constructor
    · simpa [h, LineRole.isHeading, LineRole.isUnderline, LineRole.level] using hlevel
    · simp [h, LineRole.label]
    · have hnot : Text.isAllBlank line.text ≠ true := fun hb => hblank.1 (hreads.blank_iff.2 ⟨hb, hblank.2⟩)
      simp [h, hnot]
  · rw [hrole] at h
    rw [← h] at hreads
    exact ⟨hreads.level, hreads.label, hreads.blank_iff⟩

/-- Every classification is well formed. -/
theorem classify_wellFormed (lines : List Text) : WellFormed lines (classify lines) where
  numbers := map_number_classifyFrom ..
  texts := map_text_classifyFrom ..
  sound line hm := by
    obtain ⟨i, hi⟩ := List.mem_iff_getElem?.1 hm
    exact line_sound (getElem?_classify_eq_some.1 hi).2.2
  underlined_iff i line hi := by
    rcases (paired_classifyFrom .start 1 lines).getElem? hi with ⟨level, hbelow, hrole⟩ | ⟨hbelow, hrole⟩
    · obtain ⟨below, hget, hb⟩ := Option.map_eq_some_iff.1 hbelow
      rw [hrole]
      exact ⟨fun _ => ⟨below, hget, by rw [hb]; rfl⟩, fun _ => rfl⟩
    · rw [hrole]
      constructor
      · intro h
        cases h
      · rintro ⟨below, hget, hb⟩
        obtain ⟨level, hb⟩ := LineRole.isUnderline_iff.1 hb
        exact absurd (Option.map_eq_some_iff.2 ⟨below, hget, hb⟩) (hbelow level)
  underline i below hi hu := by
    obtain ⟨level, hu⟩ := LineRole.isUnderline_iff.1 hu
    obtain ⟨-, -, hmarker, hfits⟩ := LineScan.role_eq_underline
      (LineScan.finalRole_eq_underline_iff.1 ((getElem?_classify_eq_some.1 hi).2.2.symm.trans hu))
    cases i with
    | zero =>
      -- on top there is nothing to underline
      cases hfits
    | succ j =>
      obtain ⟨line, s, rest, hline, -⟩ := exists_line_above hi
      have hbelow : (classify lines)[j + 1]?.map (·.role) = some (.underline level) := by
        rw [hi, Option.map_some, hu]
      rcases (paired_classifyFrom .start 1 lines).getElem? hline with ⟨l, hl, hrole⟩ | ⟨hnone, -⟩
      · cases hbelow.symm.trans hl
        obtain ⟨c, more, htext, hc⟩ := cons_of_underlineLevel? hmarker
        refine ⟨j, line, level, rfl, hline, hrole, hu, ?_⟩
        rw [htext]
        simpa using hc
      · exact absurd hbelow (hnone level)
  continuation i line hi hc := by
    have hrole := (LineScan.role_of_finalRole ((getElem?_classify_eq_some.1 hi).2.2.symm.trans hc) rfl).1
    have hreads := (LineScan.start.after (lines.take i)).reads line.text
    rw [hrole] at hreads
    cases i with
    | zero =>
      -- on top there is nothing to continue
      cases hreads.inDefinition_above
    | succ j =>
      obtain ⟨above, s, rest, habove, hr, hbelow⟩ := exists_line_above hi
      refine ⟨j, above, rfl, habove, ?_⟩
      rw [hr]
      exact LineScan.inDefinition_above_continuation (hbelow.symm.trans hc)

end MarkdownStyle
