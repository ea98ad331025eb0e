/-
The grammars of plain lines. A line that is neither fenced nor an underline is blank, a heading with
hashes, a thematic break, a link definition, or none of these. Each reader accepts exactly its grammar,
and the first character that is not whitespace tells the grammars apart: no line belongs to two of them,
so the readers may be tried in any order.
-/
import MarkdownStyle.Proofs.Line.Break

namespace MarkdownStyle

/-! ## The grammars -/

/-- The lines that have a shape of their own, each with the role that the shape gives it. -/
inductive PlainGrammar : Text → LineRole → Prop
  | blank {line : Text} : Text.isAllBlank line = true → PlainGrammar line .blank
  /-- One to six hashes, whitespace, and anything. -/
  | hashHeading {level : Nat} {gap : Char} {rest : Text} : 1 ≤ level → level ≤ 6 → Text.isBlank gap = true →
    PlainGrammar (List.replicate level '#' ++ gap :: rest) (.hashHeading level (withoutClosing (Text.trimLeft rest)))
  /-- At least three copies of a marker, at most one space between neighbours, whitespace around them. -/
  | thematicBreak {marker : Char} {count : Nat} {indent run tail : Text} :
    marker = '-' ∨ marker = '*' ∨ marker = '_' → Text.isAllBlank indent = true → MarkerRun marker count run →
      3 ≤ count → Text.isAllBlank tail = true → PlainGrammar (indent ++ (run ++ tail)) .thematicBreak
  /-- A label in brackets, a colon, whitespace, and the first character of a target. -/
  | definition {label indent gap : Text} {c : Char} {rest : Text} : Text.isAllBlank indent = true → label ≠ [] →
    ']' ∉ label → gap ≠ [] → Text.isAllBlank gap = true → Text.isBlank c = false →
      PlainGrammar (indent ++ '[' :: (label ++ ']' :: ':' :: (gap ++ c :: rest))) (.definition label)

/-- The kinds of lines that have a grammar. -/
def grammarKinds : List LineKind := [.blank, .hashHeading, .thematicBreak, .definition]

/-- What the reader for one kind of lines makes of a line. -/
def readAs? (kind : LineKind) (line : Text) : Option LineRole :=
  match kind with
  | .blank => if Text.isAllBlank line then some .blank else none
  | .hashHeading => hashHeading? line
  | .thematicBreak => if isThematicBreak line then some .thematicBreak else none
  | .definition => (definitionLabel? line).map .definition
  | _ => none

variable {line : Text} {role : LineRole}

theorem PlainGrammar.kind_mem (h : PlainGrammar line role) : role.kind ∈ grammarKinds := by
  cases h <;> simp [LineRole.kind, grammarKinds]

/-! ## Readers -/

theorem hashHeading?_eq_some_iff : hashHeading? line = some role ↔
    ∃ level gap rest, 1 ≤ level ∧ level ≤ 6 ∧ Text.isBlank gap = true ∧
      line = List.replicate level '#' ++ gap :: rest ∧
      role = .hashHeading level (withoutClosing (Text.trimLeft rest)) := by
  constructor
  · intro h
    unfold hashHeading? at h
    cases hspan : Text.span (· == '#') line with | mk hashes back =>
    obtain ⟨hline, hhashes, -⟩ := Text.span_eq_iff.1 hspan
    simp only [hspan] at h
    split at h
    · rename_i hlevel
      simp only [Bool.and_eq_true, decide_eq_true_eq, Option.any_eq_true] at hlevel
      obtain ⟨⟨h1, h6⟩, gap, hgap, hblank⟩ := hlevel
      obtain ⟨rest, rfl⟩ := List.head?_eq_some_iff.1 hgap
      have hreplicate := List.eq_replicate_of_mem fun c hc => beq_iff_eq.1 (hhashes c hc)
      have htrim : Text.trimLeft (gap :: rest) = Text.trimLeft rest := List.dropWhile_cons_of_pos hblank
      rw [htrim] at h
      exact ⟨_, gap, rest, h1, h6, hblank, by rw [← hreplicate, hline], (Option.some.inj h).symm⟩
    · cases h
  · rintro ⟨level, gap, rest, h1, h6, hblank, rfl, rfl⟩
    have hne : gap ≠ '#' := by
      rintro rfl
      exact absurd hblank (by decide)
    have hspan : Text.span (· == '#') (List.replicate level '#' ++ gap :: rest) =
        (List.replicate level '#', gap :: rest) :=
      Text.span_eq_iff.2 ⟨rfl, fun c hc => beq_iff_eq.2 (List.eq_of_mem_replicate hc),
        by rintro c ⟨⟩; exact beq_eq_false_iff_ne.2 hne⟩
    have htrim : Text.trimLeft (gap :: rest) = Text.trimLeft rest := List.dropWhile_cons_of_pos hblank
    unfold hashHeading?
    simp only [hspan, List.length_replicate, htrim]
    rw [if_pos]
    simp [h1, h6, hblank]

theorem isBlank_of_breakMarker {marker : Char} (h : marker = '-' ∨ marker = '*' ∨ marker = '_') :
    Text.isBlank marker = false := by
  rcases h with rfl | rfl | rfl <;> decide

theorem isThematicBreak_iff_run : isThematicBreak line = true ↔
    ∃ marker count indent run tail, (marker = '-' ∨ marker = '*' ∨ marker = '_') ∧ Text.isAllBlank indent = true ∧
      MarkerRun marker count run ∧ 3 ≤ count ∧ Text.isAllBlank tail = true ∧ line = indent ++ (run ++ tail) := by
  have hfirst : ∀ {marker : Char} {t : Text}, (marker = '-' ∨ marker = '*' ∨ marker = '_') → t.head? = some marker →
      ∀ c ∈ t.head?, Text.isBlank c = false := by
    intro marker t hmarker hhead c hc
    rw [hhead] at hc
    cases hc
    exact isBlank_of_breakMarker hmarker
  rw [isThematicBreak_iff]
  constructor
  · rintro ⟨marker, hmarker, hrow⟩
    obtain ⟨indent, hindent, hline⟩ := (Text.trimLeft_eq_iff (hfirst hmarker hrow.head?_eq)).1 rfl
    obtain ⟨count, run, tail, hrun, hcount, htail, hrest⟩ := hrow
    exact ⟨marker, count, indent, run, tail, hmarker, hindent, hrun, hcount, htail, by rw [← hrest, ← hline]⟩
  · rintro ⟨marker, count, indent, run, tail, hmarker, hindent, hrun, hcount, htail, hline⟩
    have hrow : MarkerRow marker 3 (run ++ tail) := ⟨count, run, tail, hrun, hcount, htail, rfl⟩
    have htrim := (Text.trimLeft_eq_iff (hfirst hmarker hrow.head?_eq)).2 ⟨indent, hindent, hline⟩
    exact ⟨marker, hmarker, by rwa [htrim]⟩

/-- What stands behind the colon of a definition: whitespace, and then something else. -/
theorem head?_any_isBlank_and_iff {t : Text} :
    (t.head?.any Text.isBlank && !Text.isAllBlank t) = true ↔ ∃ (gap : Text) (c : Char) (rest : Text),
      gap ≠ [] ∧ Text.isAllBlank gap = true ∧ Text.isBlank c = false ∧ t = gap ++ c :: rest := by
  rw [Bool.and_eq_true, Bool.not_eq_true']
  constructor
  · rintro ⟨hfirst, hvisible⟩
    cases hspan : Text.span Text.isBlank t with | mk gap back =>
    obtain ⟨rfl, hgap, hback⟩ := Text.span_eq_iff.1 hspan
    have hgap := List.all_eq_true.2 hgap
    rcases back with _ | ⟨c, rest⟩
    · rw [List.append_nil] at hvisible
      exact absurd hgap (by rw [show gap.all Text.isBlank = false from hvisible]; exact Bool.false_ne_true)
    · have hc := hback c rfl
      refine ⟨gap, c, rest, ?_, hgap, hc, rfl⟩
      rintro rfl
      exact absurd hfirst (by simp [hc])
  · rintro ⟨gap, c, rest, hne, hgap, hc, rfl⟩
    obtain ⟨d, more, rfl⟩ := List.exists_cons_of_ne_nil hne
    simp [Text.isAllBlank, (Text.isAllBlank_cons.1 hgap).1, hc]

theorem definitionLabel?_eq_some_iff {label : Text} : definitionLabel? line = some label ↔
    ∃ (indent gap : Text) (c : Char) (rest : Text), Text.isAllBlank indent = true ∧ label ≠ [] ∧ ']' ∉ label ∧
      gap ≠ [] ∧ Text.isAllBlank gap = true ∧ Text.isBlank c = false ∧
      line = indent ++ '[' :: (label ++ ']' :: ':' :: (gap ++ c :: rest)) := by
  have hbracket : ∀ {t : Text}, ∀ c ∈ ('[' :: t).head?, Text.isBlank c = false := by
    rintro t c ⟨⟩
    decide
  constructor
  · intro h
    unfold definitionLabel? at h
    split at h
    · rename_i rest htrim
      obtain ⟨indent, hindent, hline⟩ := (Text.trimLeft_eq_iff hbracket).1 htrim
      split at h
      · cases h
      · rename_i found target hne hspan
        obtain ⟨hrest, hfound, -⟩ := Text.span_eq_iff.1 hspan
        split at h
        · rename_i htarget
          cases h
          obtain ⟨gap, c, back, hgap, hblank, hc, rfl⟩ := head?_any_isBlank_and_iff.1 htarget
          refine ⟨indent, gap, c, back, hindent, hne, fun hmem => ?_, hgap, hblank, hc, by rw [hline, hrest]⟩
          exact absurd (hfound _ hmem) (by decide)
        · cases h
      · cases h
    · cases h
  · rintro ⟨indent, gap, c, rest, hindent, hne, hlabel, hgap, hblank, hc, hline⟩
    have htrim := (Text.trimLeft_eq_iff hbracket).2 ⟨indent, hindent, hline⟩
    have hspan : Text.span (· != ']') (label ++ ']' :: ':' :: (gap ++ c :: rest)) =
        (label, ']' :: ':' :: (gap ++ c :: rest)) :=
      Text.span_eq_iff.2 ⟨rfl, fun d hd => bne_iff_ne.2 fun heq => hlabel (heq ▸ hd), by rintro d ⟨⟩; decide⟩
    have htarget := head?_any_isBlank_and_iff.2 ⟨gap, c, rest, hgap, hblank, hc, rfl⟩
    obtain ⟨d, more, rfl⟩ := List.exists_cons_of_ne_nil hne
    unfold definitionLabel?
    simp only [htrim, hspan]
    rw [if_pos htarget]

/-- Each reader accepts exactly its grammar. -/
theorem readAs?_eq_some_iff {kind : LineKind} :
    readAs? kind line = some role ↔ PlainGrammar line role ∧ role.kind = kind := by
  constructor
  · intro h
    cases kind with
    | blank =>
      obtain ⟨hblank, ⟨⟩⟩ := Option.ite_none_right_eq_some.1 h
      exact ⟨.blank hblank, rfl⟩
    | hashHeading =>
      obtain ⟨level, gap, rest, h1, h6, hgap, rfl, rfl⟩ := hashHeading?_eq_some_iff.1 h
      exact ⟨.hashHeading h1 h6 hgap, rfl⟩
    | thematicBreak =>
      obtain ⟨hbreak, ⟨⟩⟩ := Option.ite_none_right_eq_some.1 h
      obtain ⟨marker, count, indent, run, tail, hmarker, hindent, hrun, hcount, htail, rfl⟩ :=
        isThematicBreak_iff_run.1 hbreak
      exact ⟨.thematicBreak hmarker hindent hrun hcount htail, rfl⟩
    | definition =>
      obtain ⟨label, hlabel, rfl⟩ := Option.map_eq_some_iff.1 h
      obtain ⟨indent, gap, c, rest, hindent, hne, hbracket, hgap, hblank, hc, rfl⟩ :=
        definitionLabel?_eq_some_iff.1 hlabel
      exact ⟨.definition hindent hne hbracket hgap hblank hc, rfl⟩
    | _ => cases h
  · rintro ⟨h, rfl⟩
    cases h with
    | blank hblank => exact if_pos hblank
    | hashHeading h1 h6 hgap => exact hashHeading?_eq_some_iff.2 ⟨_, _, _, h1, h6, hgap, rfl, rfl⟩
    | thematicBreak hmarker hindent hrun hcount htail =>
      exact if_pos (isThematicBreak_iff_run.2 ⟨_, _, _, _, _, hmarker, hindent, hrun, hcount, htail, rfl⟩)
    | definition hindent hne hbracket hgap hblank hc =>
      exact Option.map_eq_some_iff.2
        ⟨_, definitionLabel?_eq_some_iff.2 ⟨_, _, _, _, hindent, hne, hbracket, hgap, hblank, hc, rfl⟩, rfl⟩

instance : Decidable (PlainGrammar line role) :=
  decidable_of_iff (readAs? role.kind line = some role) (readAs?_eq_some_iff.trans (and_iff_left rfl))

/-! ## One grammar for each line -/

/-- The only kind of lines with a grammar that can start with a character, whitespace left aside. -/
def kindStarting (first : Option Char) : LineKind :=
  match first with
  | none => .blank
  | some c => if c == '#' then .hashHeading else if c == '[' then .definition else .thematicBreak

/-- The first visible character of a line decides on its grammar. -/
theorem PlainGrammar.kind_eq (h : PlainGrammar line role) :
    role.kind = kindStarting (Text.trimLeft line).head? := by
  cases h with
  | blank hblank =>
    have htrim : Text.trimLeft line = [] :=
      (Text.trimLeft_eq_iff (by simp)).2 ⟨line, hblank, (List.append_nil line).symm⟩
    rw [htrim]
    rfl
  | @hashHeading level gap rest h1 h6 hgap =>
    obtain ⟨n, rfl⟩ := Nat.exists_eq_add_of_le' h1
    have htrim : Text.trimLeft (List.replicate (n + 1) '#' ++ gap :: rest) =
        '#' :: (List.replicate n '#' ++ gap :: rest) :=
      List.dropWhile_cons_of_neg (by decide)
    rw [htrim]
    rfl
  | @thematicBreak marker count indent run tail hmarker hindent hrun hcount htail =>
    obtain ⟨front, rfl⟩ := hrun.eq_cons
    have htrim : Text.trimLeft (indent ++ (marker :: front ++ tail)) = marker :: front ++ tail := by
      refine (Text.trimLeft_eq_iff ?_).2 ⟨indent, hindent, rfl⟩
      rintro c ⟨⟩
      exact isBlank_of_breakMarker hmarker
    rw [htrim]
    rcases hmarker with rfl | rfl | rfl <;> rfl
  | @definition label indent gap c rest hindent =>
    have htrim : ∀ t : Text, Text.trimLeft (indent ++ '[' :: t) = '[' :: t := by
      intro t
      refine (Text.trimLeft_eq_iff ?_).2 ⟨indent, hindent, rfl⟩
      rintro d ⟨⟩
      decide
    rw [htrim]
    rfl

/-- No line belongs to two grammars, or to one of them in two ways. -/
theorem PlainGrammar.role_unique {role' : LineRole} (h : PlainGrammar line role) (h' : PlainGrammar line role') :
    role = role' := by
  have hread := readAs?_eq_some_iff.2 ⟨h, h.kind_eq⟩
  have hread' := readAs?_eq_some_iff.2 ⟨h', h'.kind_eq⟩
  exact Option.some.inj (hread.symm.trans hread')

/-- In whatever order the readers are tried, the first that accepts a line finds its grammar. -/
theorem findSome?_readAs?_eq_some_iff {order : List LineKind} (h : order.Perm grammarKinds) :
    order.findSome? (readAs? · line) = some role ↔ PlainGrammar line role := by
  constructor
  · intro hfind
    obtain ⟨kind, -, hread⟩ := List.exists_of_findSome?_eq_some hfind
    exact (readAs?_eq_some_iff.1 hread).1
  · intro hgrammar
    cases hfind : order.findSome? (readAs? · line) with
    | none =>
      have hnone := List.findSome?_eq_none_iff.1 hfind role.kind (h.mem_iff.2 hgrammar.kind_mem)
      rw [readAs?_eq_some_iff.2 ⟨hgrammar, rfl⟩] at hnone
      cases hnone
    | some role' =>
      obtain ⟨kind, -, hread⟩ := List.exists_of_findSome?_eq_some hfind
      rw [hgrammar.role_unique (readAs?_eq_some_iff.1 hread).1]

/-- The readers are tried one after the other; what none of them accepts continues a definition or is
plain text. -/
theorem plainRole_eq_findSome? (above : Option LineRole) (line : Text) :
    plainRole above line = (grammarKinds.findSome? (readAs? · line)).getD
      (if inDefinition above = true then .continuation else .text) := by
  rw [plainRole_eq]
  have hshape := shape_plainRole line
  generalize plainRole none line = role at hshape
  cases hshape with
  | blank hblank => simp [grammarKinds, readAs?, hblank]
  | hashHeading hblank hheading => simp [grammarKinds, readAs?, hblank, hheading]
  | thematicBreak hblank hheading hbreak => simp [grammarKinds, readAs?, hblank, hheading, hbreak]
  | definition hblank hheading hbreak hlabel => simp [grammarKinds, readAs?, hblank, hheading, hbreak, hlabel]
  | text hblank hheading hbreak hlabel => simp [grammarKinds, readAs?, hblank, hheading, hbreak, hlabel]

/-- The role of a plain line, under every role of the line above. A role with a grammar is given exactly to
the lines of that grammar, with the level, heading or label that the grammar reads; a line without one
continues a definition or is plain text. The grammars exclude each other, so the order in which the
readers are tried makes no difference. -/
theorem plainRole_exact (above : Option LineRole) (line : Text) :
    (∀ role : LineRole, role.kind ∈ grammarKinds → (plainRole above line = role ↔ PlainGrammar line role)) ∧
      ((∀ role, ¬ PlainGrammar line role) →
        plainRole above line = if inDefinition above = true then .continuation else .text) ∧
      (∀ role role', PlainGrammar line role → PlainGrammar line role' → role = role') ∧
      ∀ order : List LineKind, order.Perm grammarKinds →
        plainRole above line = (order.findSome? (readAs? · line)).getD
          (if inDefinition above = true then .continuation else .text) := by
  have hother : ∀ role : LineRole, role.kind ∈ grammarKinds →
      (if inDefinition above = true then LineRole.continuation else .text) ≠ role := by
    rintro role hkind rfl
    revert hkind
    split <;> decide
  have horder : ∀ order : List LineKind, order.Perm grammarKinds →
      plainRole above line = (order.findSome? (readAs? · line)).getD
        (if inDefinition above = true then .continuation else .text) := by
    intro order hperm
    have hsame : order.findSome? (readAs? · line) = grammarKinds.findSome? (readAs? · line) :=
      Option.ext fun role => (findSome?_readAs?_eq_some_iff hperm).trans (findSome?_readAs?_eq_some_iff (.refl _)).symm
    rw [hsame, plainRole_eq_findSome?]
  refine ⟨fun role hkind => ?_, fun hnone => ?_, fun _ _ h h' => h.role_unique h', horder⟩
  · rw [horder _ (.refl _), ← findSome?_readAs?_eq_some_iff (.refl _)]
    cases grammarKinds.findSome? (readAs? · line) with
    | none => simpa using hother role hkind
    | some role' => simp
  · have hfind : grammarKinds.findSome? (readAs? · line) = none :=
      Option.eq_none_iff_forall_ne_some.2 fun role h => hnone role ((findSome?_readAs?_eq_some_iff (.refl _)).1 h)
    rw [horder _ (.refl _), hfind]
    rfl

-- a tab separates no markers, and a label may hold an opening bracket
example : ¬ PlainGrammar "-\t- -".toList .thematicBreak ∧
    PlainGrammar " [a[b]:\tc".toList (.definition "a[b".toList) := by decide

end MarkdownStyle
