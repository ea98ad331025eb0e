/-
Fixing a file. The text of a file is read with its line ends unified, fixed, and written back if it has
changed. So where fixing has nothing to do the file stays as it is, byte for byte, and otherwise its line
ends become line feeds, the pairs included that fixing a text keeps.
-/
import MarkdownStyle.Files.Lint
import MarkdownStyle.Proofs.Files.Tree
import MarkdownStyle.Proofs.Fix.Fixpoint
import MarkdownStyle.Proofs.Text.Breaks
import MarkdownStyle.Proofs.Text.Utf8

namespace MarkdownStyle

namespace Linter

variable {l : Linter} {t : FileTree} {p : Path} {place : List String} {bytes : Bytes} {s : Text}

/-! ## Fixing the file at a path -/

theorem text_fix (l : Linter) (s : Text) (path path' : String) : (l.fix s path).1 = (l.fix s path').1 := by
  unfold fix
  simp only [lintDocument]
  split <;> rfl

/-- The bytes that fixing a file leaves: those that it had, unless its text changes. -/
def fixedBytes (l : Linter) (bytes : Bytes) : Bytes :=
  match Text.decode bytes with
  | .error _ => bytes
  | .ok s =>
    let text := Text.unifyBreaks s
    let fixed := (l.fix text "").1
    if fixed = text then bytes else Text.encode fixed

theorem fixedBytes_of_eq (hs : Text.decode bytes = .ok s)
    (h : (l.fix (Text.unifyBreaks s) "").1 = Text.unifyBreaks s) : l.fixedBytes bytes = bytes := by
  unfold fixedBytes
  rw [hs]
  exact if_pos h

theorem fixedBytes_of_ne (hs : Text.decode bytes = .ok s)
    (h : (l.fix (Text.unifyBreaks s) "").1 ≠ Text.unifyBreaks s) :
    l.fixedBytes bytes = Text.encode (l.fix (Text.unifyBreaks s) "").1 := by
  unfold fixedBytes
  rw [hs]
  exact if_neg h

/-- A file without carriage returns holds the fixed text. -/
theorem fixedBytes_encode (hs : '\r' ∉ s) (h : (l.fix s "").1 ≠ s) :
    l.fixedBytes (Text.encode s) = Text.encode (l.fix s "").1 := by
  have hunify := Text.unifyBreaks_eq_self_iff.2 hs
  have hfixed := @fixedBytes_of_ne l (Text.encode s) s (Text.decode_encode s) (by rwa [hunify])
  rwa [hunify] at hfixed

/-- What fixing leaves can be decoded again. -/
theorem decode_fixedBytes (l : Linter) (hs : Text.decode bytes = .ok s) :
    ∃ s', Text.decode (l.fixedBytes bytes) = .ok s' := by
  by_cases h : (l.fix (Text.unifyBreaks s) "").1 = Text.unifyBreaks s
  · exact ⟨s, by rw [fixedBytes_of_eq hs h, hs]⟩
  · exact ⟨_, by rw [fixedBytes_of_ne hs h, Text.decode_encode]⟩

theorem fixedBytes_of_error {e : Utf8Error} (hs : Text.decode bytes = .error e) : l.fixedBytes bytes = bytes := by
  unfold fixedBytes
  rw [hs]

theorem fixAt_of_readText (l : Linter) {text : Text} (h : t.readText p = .ok text) :
    l.fixAt t p = .ok (if (l.fix text p.toString).1 = text then t else t.writeText p (l.fix text p.toString).1,
      (l.fix text p.toString).2) := by
  unfold fixAt
  rw [h]
  simp only [Except.map, beq_iff_eq]

/-- Fixing a file leaves the tree as it is, but for the bytes of that file. -/
theorem fixAt_eq (l : Linter) (h : t.LeadsToFile p place bytes) (hs : Text.decode bytes = .ok s) :
    ∃ t', l.fixAt t p = .ok (t', (l.fix (Text.unifyBreaks s) p.toString).2) ∧
      t.Rewritten t' place (l.fixedBytes bytes) := by
  refine ⟨_, fixAt_of_readText l (by rw [h.readText, hs]), ?_⟩
  rw [l.text_fix _ p.toString ""]
  by_cases hfixed : (l.fix (Text.unifyBreaks s) "").1 = Text.unifyBreaks s
  · rw [if_pos hfixed, fixedBytes_of_eq hs hfixed]
    exact h.rewritten_self
  · rw [if_neg hfixed, fixedBytes_of_ne hs hfixed]
    exact h.rewritten_writeText _

/-! ## Fixing a text with unified line ends -/

/-- What is reported about a text depends on its lines alone. -/
theorem report_fix_unifyBreaks (l : Linter) (s : Text) (path : String) :
    (l.fix (Text.unifyBreaks s) path).2 = (l.fix s path).2 := by
  unfold fix
  simp only [Text.lines_unifyBreaks]
  split <;> rfl

theorem lint_unifyBreaks (l : Linter) (s : Text) (path : String) :
    l.lint (Text.unifyBreaks s) path = l.lint s path := by
  unfold lint
  rw [Text.lines_unifyBreaks]

variable {config : Mapping}

/-- No rule writes a line end into a line. -/
theorem noBreak_applyEdits_lint (h : Linter.ofConfig .builtin config = .ok l) (s : Text) (path : String) :
    ∀ line ∈ applyEdits (Text.lines s) ((l.lint s path).issues.filterMap (·.edit)), Text.NoBreak line :=
  noBreak_applyEdits (clean_edits builtin_offersClean h fun _ => Text.noBreak_of_mem_lines)
    fun _ => Text.noBreak_of_mem_lines

/-- Fixing a text with unified line ends gives the fixed text with unified line ends. -/
theorem fix_unifyBreaks (h : Linter.ofConfig .builtin config = .ok l) (s : Text) (path : String) :
    (l.fix (Text.unifyBreaks s) path).1 = Text.unifyBreaks (l.fix s path).1 := by
  by_cases hedits : (l.lint s path).issues.filterMap (·.edit) = []
  · have hedits' : (l.lint (Text.unifyBreaks s) path).issues.filterMap (·.edit) = [] := by
      rw [l.lint_unifyBreaks, hedits]
    rw [fix_of_edits_eq_nil hedits, fix_of_edits_eq_nil hedits']
  · have hedits' : (l.lint (Text.unifyBreaks s) path).issues.filterMap (·.edit) ≠ [] := by
      rwa [l.lint_unifyBreaks]
    rw [(fix_of_edits_ne_nil hedits).1, (fix_of_edits_ne_nil hedits').1, l.lint_unifyBreaks, Text.lines_unifyBreaks,
      Text.unifyBreaks_writeLines s (noBreak_applyEdits_lint h s path)]

/-- A fixed text has a carriage return exactly if the text had a pair, which fixing keeps. -/
theorem mem_fix_iff (h : Linter.ofConfig .builtin config = .ok l) {s : Text} {path : String}
    (hfixable : ¬ ∀ i ∈ (l.lint s path).issues, i.isFixable = false) :
    '\r' ∈ (l.fix s path).1 ↔ Text.hasPairedBreak s = true := by
  have hedits : (l.lint s path).issues.filterMap (·.edit) ≠ [] := by
    simpa [List.filterMap_eq_nil_iff, Issue.isFixable] using hfixable
  rw [(fix_of_edits_ne_nil hedits).1,
    Text.mem_writeLines_iff (noBreak_applyEdits_lint h s path), and_iff_left_iff_imp]
  intro hpair
  cases he : Text.endsWithBreak s with
  | true => exact .inr rfl
  | false => exact .inl ((Text.two_le_length_lines hpair he).trans (length_le_length_applyEdits _ _))

/-- Unifying the line ends of a text that fixing has changed changes it again if it has pairs. -/
theorem unifyBreaks_fix_eq_iff (h : Linter.ofConfig .builtin config = .ok l) {s : Text} {path : String}
    (hfixable : ¬ ∀ i ∈ (l.lint s path).issues, i.isFixable = false) :
    Text.unifyBreaks (l.fix s path).1 = (l.fix s path).1 ↔ Text.hasPairedBreak s = false := by
  rw [Text.unifyBreaks_eq_self_iff, mem_fix_iff h hfixable, Bool.not_eq_true]

/-- What a file holds once it is fixed. -/
theorem exists_fixAt (h : Linter.ofConfig .builtin config = .ok l) (hbytes : t.readBytes p = .ok bytes)
    (hs : Text.decode bytes = .ok s) :
    ∃ t' bytes', l.fixAt t p = .ok (t', (l.fix s p.toString).2) ∧ t'.readBytes p = .ok bytes' ∧
      ((∀ i ∈ (l.lint s p.toString).issues, i.isFixable = false) → bytes' = bytes) ∧
      ((¬ ∀ i ∈ (l.lint s p.toString).issues, i.isFixable = false) →
        bytes' = Text.encode (Text.unifyBreaks (l.fix s p.toString).1)) := by
  obtain ⟨place, hfile⟩ := FileTree.readBytes_eq_ok_iff.1 hbytes
  obtain ⟨t', hfix, hrewritten⟩ := l.fixAt_eq hfile hs
  have hquiet : (l.fix (Text.unifyBreaks s) "").1 = Text.unifyBreaks s ↔
      ∀ i ∈ (l.lint s p.toString).issues, i.isFixable = false := by
    rw [fix_eq_self_iff h, l.lint_unifyBreaks]
    rfl
  refine ⟨t', l.fixedBytes bytes, by rw [hfix, l.report_fix_unifyBreaks], ?_, fun hnone => ?_, fun hsome => ?_⟩
  · have hagain := hrewritten.leadsToFile hfile
    rw [if_pos rfl] at hagain
    exact FileTree.readBytes_eq_ok_iff.2 ⟨place, hagain⟩
  · exact fixedBytes_of_eq hs (hquiet.2 hnone)
  · rw [fixedBytes_of_ne hs (mt hquiet.1 hsome), fix_unifyBreaks h, l.text_fix s "" p.toString]

end Linter

/-! ## Fixing a file and fixing its text -/

/-- Fixing a file succeeds if the file can be decoded, and leaves it with the lines of the fixed text. But
unless nothing was to be fixed, all its line ends become line feeds: it holds another text than fixing
its text gives exactly if something was to be fixed and a pair of carriage return and line feed occurs. -/
theorem Linter.fixAt_text {config : Mapping} {l : Linter} (h : Linter.ofConfig .builtin config = .ok l)
    {t : FileTree} {p : Path} {bytes : Bytes} (hbytes : t.readBytes p = .ok bytes) {s : Text}
    (hs : Text.decode bytes = .ok s) :
    let fixed := (l.fix s p.toString).1
    let nothingToFix := ∀ i ∈ (l.lint s p.toString).issues, i.isFixable = false
    ∃ t' bytes' s', l.fixAt t p = .ok (t', (l.fix s p.toString).2) ∧ t'.readBytes p = .ok bytes' ∧
      Text.decode bytes' = .ok s' ∧ Text.lines s' = Text.lines fixed ∧ (nothingToFix → bytes' = bytes) ∧
      (¬ nothingToFix → s' = Text.unifyBreaks fixed) ∧ (s' = fixed ↔ nothingToFix ∨ Text.hasPairedBreak s = false) := by
  intro fixed nothingToFix
  obtain ⟨t', bytes', hfix, hread, hsame, hwritten⟩ := Linter.exists_fixAt h hbytes hs
  by_cases hnone : nothingToFix
  · have hfixed : fixed = s := (Linter.fix_eq_self_iff h s p.toString).2 hnone
    exact ⟨t', bytes', s, hfix, hread, by rw [hsame hnone, hs], by rw [hfixed], hsame, fun hsome => absurd hnone hsome,
      ⟨fun _ => .inl hnone, fun _ => hfixed.symm⟩⟩
  · refine ⟨t', bytes', Text.unifyBreaks fixed, hfix, hread, ?_, Text.lines_unifyBreaks fixed,
      hsame, fun _ => rfl, ?_⟩
    · rw [hwritten hnone, Text.decode_encode]
    · rw [Linter.unifyBreaks_fix_eq_iff h hnone, or_iff_right hnone]

/-- A tree with one file. -/
def FileTree.ofText (name : String) (text : Text) : FileTree :=
  ⟨.directory [(name, .file (Text.encode text))], [], ""⟩

theorem FileTree.readBytes_ofText (text : Text) :
    (FileTree.ofText "a.md" text).readBytes ⟨.current, ["a.md"]⟩ = .ok (Text.encode text) := by
  rfl

/-- With line feeds alone the file holds the fixed text. -/
theorem fixAt_text_of_lineFeeds :
    ∃ t' report bytes', Linter.house.fixAt (.ofText "a.md" "- a\n".toList) ⟨.current, ["a.md"]⟩ = .ok (t', report) ∧
      t'.readBytes ⟨.current, ["a.md"]⟩ = .ok bytes' ∧ Text.decode bytes' = .ok " -  a\n".toList := by
  obtain ⟨t', bytes', s', hfix, hread, hdecode, -, -, -, hsame⟩ := Linter.fixAt_text Linter.ofConfig_nil
    (FileTree.readBytes_ofText "- a\n".toList) (Text.decode_encode "- a\n".toList)
  have hfixed : (Linter.house.fix "- a\n".toList (Path.toString ⟨.current, ["a.md"]⟩)).1 = " -  a\n".toList := by
    rw [Linter.fix_of_not_quiet rfl _ (by decide)]
    decide
  exact ⟨t', _, bytes', hfix, hread, by rw [hdecode, hsame.2 (.inr (by decide)), hfixed]⟩

/-- With pairs the file holds line feeds instead of the pairs that fixing its text keeps. -/
theorem fixAt_text_ne :
    let s := "- Item\r\n- Other\r\n".toList
    (FileTree.ofText "a.md" s).readBytes ⟨.current, ["a.md"]⟩ = .ok (Text.encode s) ∧
      Text.decode (Text.encode s) = .ok s ∧
      ∃ t' report bytes', Linter.house.fixAt (.ofText "a.md" s) ⟨.current, ["a.md"]⟩ = .ok (t', report) ∧
        t'.readBytes ⟨.current, ["a.md"]⟩ = .ok bytes' ∧
        Text.decode bytes' ≠ .ok (Linter.house.fix s (Path.toString ⟨.current, ["a.md"]⟩)).1 := by
  intro s
  have hread := FileTree.readBytes_ofText s
  have hdecode := Text.decode_encode s
  refine ⟨hread, hdecode, ?_⟩
  obtain ⟨t', bytes', hfix, hread', -, hwritten⟩ := Linter.exists_fixAt Linter.ofConfig_nil hread hdecode
  have hfixable : ¬ ∀ i ∈ (Linter.house.lint s (Path.toString ⟨.current, ["a.md"]⟩)).issues, i.isFixable = false := by
    rw [← Linter.quiet_iff rfl]
    decide
  refine ⟨t', _, bytes', hfix, hread', fun hsame => ?_⟩
  rw [hwritten hfixable, Text.decode_encode, Except.ok.injEq] at hsame
  exact absurd ((Linter.unifyBreaks_fix_eq_iff Linter.ofConfig_nil hfixable).1 hsame) (by decide)

end MarkdownStyle
