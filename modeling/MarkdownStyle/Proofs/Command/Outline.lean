/-
What an outline shows. It has a row for each section, in order, with the level, the heading, the lines and
the style of the section. The style tells by the level whether a section has a heading, but the heading
cell tells by the text; so the cell for content before the first heading also stands for a heading whose
line has nothing but whitespace and a closing run behind its hashes.
-/
import MarkdownStyle.Command.Structure
import MarkdownStyle.Proofs.Console.Markup
import MarkdownStyle.Proofs.Files.Fix
import MarkdownStyle.Proofs.Line.Heading
import MarkdownStyle.Proofs.Structure.Section

namespace MarkdownStyle

/-! ## Sections of an outline -/

/-- A heading of a document has no text exactly if its line is bare. -/
theorem Heading.text_eq_nil_iff {lines : List Text} {h : Heading} (hm : h ∈ headings (classify lines)) :
    h.text = [] ↔ ∃ line, lines[h.line - 1]? = some line ∧ BareHeading h.level line := by
  obtain ⟨h1, h6⟩ := level_of_mem_headings hm
  obtain ⟨line, hline, hl⟩ := List.mem_filterMap.1 hm
  obtain ⟨i, hi⟩ := List.mem_iff_getElem?.1 hline
  obtain ⟨htext, hnumber, hrole⟩ := getElem?_classify_eq_some.1 hi
  obtain ⟨hheading, hsame⟩ := Option.ite_none_right_eq_some.1 hl
  cases hsame
  have hplace : lines[line.number - 1]? = some line.text := by rw [hnumber, Nat.add_sub_cancel, htext]
  rw [hplace, LineScan.heading_eq_nil_iff hrole hheading, hashHeading?_eq_bare_iff h1 h6]
  simp

section

variable {lines : List Text} {level : Int} {s : Section}

/-- A section is what stands before the first opening, or is opened by a heading. -/
theorem section_cases (hs : s ∈ sections lines level) :
    s.level = 0 ∧ s.heading = [] ∨ ∃ h ∈ openings lines level, s = h.sectionTo s.last := by
  have hleading : ∀ last, ∀ s ∈ leadingSection last, s.level = 0 ∧ s.heading = [] := by
    intro last s hs
    unfold leadingSection at hs
    split at hs
    · cases hs
    · rw [List.mem_singleton.1 hs]
      exact ⟨rfl, rfl⟩
  have hfit := openings_fit lines level
  cases ho : openings lines level with
  | nil =>
    rw [sections_of_openings_nil ho] at hs
    exact .inl (hleading _ s hs)
  | cons h rest =>
    rw [sections_of_openings_cons ho] at hs
    rw [ho] at hfit
    rcases List.mem_append.1 hs with hs | hs
    · exact .inl (hleading _ s hs)
    · obtain ⟨g, hg, heq, -⟩ := sectionsFrom_opened hfit s hs
      exact .inr ⟨g, hg, heq⟩

/-- A section has no heading text if it has no heading, or a bare one. -/
theorem section_heading_eq_nil_iff (hs : s ∈ sections lines level) :
    s.heading = [] ↔ s.level = 0 ∨ ∃ line, lines[s.first - 1]? = some line ∧ BareHeading s.level line := by
  rcases section_cases hs with ⟨hlevel, hheading⟩ | ⟨h, hm, heq⟩
  · exact iff_of_true hheading (.inl hlevel)
  · have hmem := List.mem_of_mem_filter hm
    have hlevel : (h.sectionTo s.last).level ≠ 0 := level_ne_zero_of_mem_headings hmem
    rw [heq, or_iff_right hlevel]
    exact Heading.text_eq_nil_iff hmem

end

/-! ## The outline of a file -/

namespace Command

/-- The words that stand for a heading that is missing. -/
def phrase : Text := "(before first heading)".toList

/-- Whether a cell says that there is no heading: with the phrase in a style, or just with the phrase. -/
def SaysNoHeading (cell : Text) : Prop := cell = noHeading ∨ cell = phrase

/-- The row of a section in an outline of lines. -/
structure OutlineRow (k : Packages) (lines : List Text) (level : Int) (s : Section) (row : List Text) : Prop where
  cells : ∃ heading style, row = [(toString s.level).toList, heading, spanText s.first s.last, style]
  opened : s.level ≠ 0 → ∃ h ∈ openings lines level, s = h.sectionTo s.last
  /-- The style is missing exactly for what stands before the first heading. -/
  unstyled : row[3]? = some ['-'] ↔ s.level = 0
  styled : s.level ≠ 0 → row[3]? = some (if s.isUnderlined then "setext".toList else "atx".toList)
  /-- The heading is said to be missing where it is, where it is bare, and where its text is the phrase. -/
  unheaded : (∃ cell, row[1]? = some cell ∧ SaysNoHeading cell) ↔ s.level = 0 ∨
    (∃ line, lines[s.first - 1]? = some line ∧ BareHeading s.level line) ∨ s.heading = phrase
  headed : s.level ≠ 0 → (∀ line, lines[s.first - 1]? = some line → ¬ BareHeading s.level line) →
    row[1]? = some (k.escape s.heading)

/-! ### Escaped headings -/

section

variable {escape : Text → Text} (h : EscapesMarkup escape) {t : Text}

include h

theorem escape_eq_iff_of_plain {u : Text} (hopen : '[' ∉ u) (hslash : '\\' ∉ u) : escape t = u ↔ t = u := by
  constructor
  · intro he
    rw [← h.unchanged t (he ▸ hslash), he]
  · rintro rfl
    exact h.plain _ hopen hslash

theorem isEmpty_escape_iff : (escape t).isEmpty = true ↔ t = [] := by
  rw [List.isEmpty_iff, escape_eq_iff_of_plain h List.not_mem_nil List.not_mem_nil]

/-- No text is escaped as a tag. -/
theorem escape_ne_noHeading : escape t ≠ noHeading := by
  intro he
  have hslash : '\\' ∉ escape t := by
    rw [he]
    decide
  have hsame : t = noHeading := (h.unchanged t hslash).symm.trans he
  have htag := h.tagged "dim".toList "(before first heading)[/dim]".toList (by decide) (by simp)
  have hwritten : '[' :: ("dim".toList ++ ']' :: "(before first heading)[/dim]".toList) = noHeading := rfl
  rw [hwritten, ← hsame, he] at htag
  exact absurd htag (by decide)

theorem saysNoHeading_iff :
    SaysNoHeading (if (escape t).isEmpty then noHeading else escape t) ↔ t = [] ∨ t = phrase := by
  by_cases ht : t = []
  · rw [if_pos ((isEmpty_escape_iff h).2 ht)]
    exact iff_of_true (.inl rfl) (.inl ht)
  · rw [if_neg (mt (isEmpty_escape_iff h).1 ht), SaysNoHeading, or_iff_right (escape_ne_noHeading h), or_iff_right ht,
      escape_eq_iff_of_plain h (by decide) (by decide)]

end

/-! ### Rows -/

variable {k : Packages} {t : FileTree} {p : Path} {level : Int} {text : Text}

theorem outlineRow_sectionRow (hk : EscapesMarkup k.escape) {lines : List Text} {s : Section}
    (hs : s ∈ sections lines level) : OutlineRow k lines level s (sectionRow k s) where
  cells := ⟨_, _, rfl⟩
  opened hlevel := (section_cases hs).resolve_left fun h => hlevel h.1
  unstyled := by
    show some (sectionStyle s) = _ ↔ _
    unfold sectionStyle
    split_ifs with hlevel hunder
    · exact iff_of_true rfl hlevel
    · exact iff_of_false (by decide) hlevel
    · exact iff_of_false (by decide) hlevel
  styled hlevel := by
    show some (sectionStyle s) = _
    rw [sectionStyle, if_neg hlevel]
  unheaded := by
    show (∃ cell, some _ = some cell ∧ SaysNoHeading cell) ↔ _
    simp only [Option.some.injEq, exists_eq_left']
    rw [saysNoHeading_iff hk, section_heading_eq_nil_iff hs, or_assoc]
  headed hlevel hbare := by
    have hheading : s.heading ≠ [] := by
      rw [ne_eq, section_heading_eq_nil_iff hs, not_or, not_exists]
      exact ⟨hlevel, fun line hline => hbare line hline.1 hline.2⟩
    show some (if (k.escape s.heading).isEmpty then _ else _) = _
    rw [if_neg (mt (isEmpty_escape_iff hk).1 hheading)]

theorem runOutline_eq (hread : t.readText p = .ok text) :
    runOutline k t p level = ⟨0, [.table (some ("Sections of ".toList ++ k.escape p.toString.toList))
      (outlineHeader :: (sections (Text.lines text) level).map (sectionRow k))]⟩ := by
  unfold runOutline
  rw [hread]

/-- What an outline prints, for all files and levels and whatever escapes its texts. There is one row for
each section, in order, with its level, lines and style. The cell for content before the first heading
stands for such content, and also for each heading whose line is bare. -/
theorem runOutline_exact (hk : EscapesMarkup k.escape) (hread : t.readText p = .ok text) :
    let o := runOutline k t p level
    o.exitCode = 0 ∧ ∃ title rows, o.output = [.table (some title) (outlineHeader :: rows)] ∧
      List.Forall₂ (OutlineRow k (Text.lines text) level) (sections (Text.lines text) level) rows := by
  intro o
  have ho : o = _ := runOutline_eq hread
  rw [ho]
  refine ⟨rfl, _, _, rfl, ?_⟩
  rw [List.forall₂_map_right_iff, List.forall₂_same]
  exact fun s hs => outlineRow_sectionRow hk hs

theorem readText_ofText (text : Text) :
    (FileTree.ofText "a.md" text).readText ⟨.current, ["a.md"]⟩ = .ok (Text.unifyBreaks text) := by
  have hfile : (FileTree.ofText "a.md" text).LeadsToFile ⟨.current, ["a.md"]⟩ ["a.md"] (Text.encode text) := ⟨rfl, rfl⟩
  rw [hfile.readText, Text.decode_encode]

/-- Sections with and without headings, one of them with markup in its text. -/
theorem runOutline_exact_of_headings :
    let text := "a\n# [b] #\n\nc\n---\n".toList
    let t := FileTree.ofText "a.md" text
    let k : Packages := ⟨fun _ => .malformed, Markup.escape⟩
    EscapesMarkup k.escape ∧ t.readText ⟨.current, ["a.md"]⟩ = .ok text ∧
      sections (Text.lines text) 2 = [⟨0, [], 1, 1, false⟩, ⟨1, "[b]".toList, 2, 3, false⟩, ⟨2, ['c'], 4, 5, true⟩] ∧
      ∃ title rows, (runOutline k t ⟨.current, ["a.md"]⟩ 2).output = [.table (some title) (outlineHeader :: rows)] ∧
        List.Forall₂ (OutlineRow k (Text.lines text) 2) (sections (Text.lines text) 2) rows := by
  intro text t k
  have hk : EscapesMarkup k.escape := Markup.escapesMarkup_escape
  have hread : t.readText ⟨.current, ["a.md"]⟩ = .ok text := readText_ofText text
  exact ⟨hk, hread, by decide, (runOutline_exact hk hread).2⟩

/-- A bare heading opens a section of its level, and is shown as if there were no heading. -/
theorem runOutline_bare :
    let text := "intro\n# #\n".toList
    let k : Packages := ⟨fun _ => .malformed, Markup.escape⟩
    sections (Text.lines text) 2 = [⟨0, [], 1, 1, false⟩, ⟨1, [], 2, 2, false⟩] ∧ ([] : Text) ≠ phrase ∧
      (runOutline k (.ofText "a.md" text) ⟨.current, ["a.md"]⟩ 2).output = [.table (some "Sections of a.md".toList)
        [outlineHeader, ["0".toList, noHeading, "1-1".toList, "-".toList],
          ["1".toList, noHeading, "2-2".toList, "atx".toList]]] := by
  intro text k
  have hsections : sections (Text.lines text) 2 = [⟨0, [], 1, 1, false⟩, ⟨1, [], 2, 2, false⟩] := by decide
  have hread : (FileTree.ofText "a.md" text).readText ⟨.current, ["a.md"]⟩ = .ok text := readText_ofText text
  refine ⟨hsections, by decide, ?_⟩
  rw [runOutline_eq hread, hsections]
  rfl

end Command

end MarkdownStyle
