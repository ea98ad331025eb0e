/-
Headings with hashes, written and read back. A run of hashes at the end of a line closes the heading if
it stands behind whitespace or makes up the whole text; so a heading text is read as it was written with
a closing run behind it, and without one unless its own end would be taken for such a run. No line above
or below makes a difference, except where a code block is open. The headings without a text are the lines
that have nothing but whitespace and at most one closing run behind their hashes.
-/
import MarkdownStyle.Proofs.Line.Grammar

namespace MarkdownStyle

/-! ## Closing runs -/

/-- The text ends in hashes that make up all of it or stand behind whitespace. -/
def EndsInClosing (t : Text) : Prop :=
  ∃ front n, t = front ++ List.replicate (n + 1) '#' ∧ ∀ c ∈ front.getLast?, Text.isBlank c = true

/-- The text in front of the hashes at its end. -/
theorem exists_hashes (t : Text) : ∃ front n, t = front ++ List.replicate n '#' ∧ '#' ∉ front.getLast? := by
  obtain ⟨hsplit, hhashes, hfront⟩ := Text.span_eq_iff.1 (rfl : Text.span (· == '#') t.reverse = _)
  have hreplicate := List.eq_replicate_of_mem fun c hc => beq_iff_eq.1 (hhashes c hc)
  refine ⟨(t.reverse.dropWhile (· == '#')).reverse, (t.reverse.takeWhile (· == '#')).length, ?_, fun hlast => ?_⟩
  · rw [← List.reverse_replicate, ← hreplicate, ← List.reverse_append, ← hsplit, List.reverse_reverse]
  · rw [List.getLast?_reverse] at hlast
    exact absurd (hfront '#' hlast) (by decide)

section

variable {front : Text}

theorem dropWhile_hashes (h : '#' ∉ front.getLast?) (n : Nat) :
    (front ++ List.replicate n '#').reverse.dropWhile (· == '#') = front.reverse := by
  have hspan : Text.span (· == '#') (List.replicate n '#' ++ front.reverse) =
      (List.replicate n '#', front.reverse) := by
    refine Text.span_eq_iff.2 ⟨rfl, fun c hc => beq_iff_eq.2 (List.eq_of_mem_replicate hc), fun c hc => ?_⟩
    rw [List.head?_reverse] at hc
    exact beq_eq_false_iff_ne.2 fun hhash => h (hhash ▸ hc)
  rw [List.reverse_append, List.reverse_replicate]
  exact congrArg Prod.snd hspan

theorem hash_not_mem_of_isBlank (h : ∀ c ∈ front.getLast?, Text.isBlank c = true) : '#' ∉ front.getLast? :=
  fun hlast => absurd (h '#' hlast) (by decide)

end

/-- Whether a text ends in a closing run is read off from its end. -/
theorem endsInClosing_iff {t : Text} : EndsInClosing t ↔
    t.reverse.head? = some '#' ∧ (t.reverse.dropWhile (· == '#')).head?.all Text.isBlank = true := by
  constructor
  · rintro ⟨front, n, rfl, hblank⟩
    rw [dropWhile_hashes (hash_not_mem_of_isBlank hblank), List.head?_reverse (l := front), Option.all_eq_true,
      List.reverse_append, List.reverse_replicate]
    exact ⟨rfl, hblank⟩
  · rintro ⟨hhead, hblank⟩
    obtain ⟨front, n, rfl, hlast⟩ := exists_hashes t
    rw [dropWhile_hashes hlast, List.head?_reverse, Option.all_eq_true] at hblank
    cases n with
    | zero =>
      rw [List.replicate_zero, List.append_nil, List.head?_reverse] at hhead
      exact absurd hhead hlast
    | succ n => exact ⟨front, n, rfl, hblank⟩

instance : DecidablePred EndsInClosing := fun _ => decidable_of_iff _ endsInClosing_iff.symm

/-- A closing run is cut off together with the whitespace in front of it. -/
theorem withoutClosing_closed {front : Text} (h : ∀ c ∈ front.getLast?, Text.isBlank c = true) (n : Nat) :
    withoutClosing (front ++ List.replicate (n + 1) '#') = Text.trim front := by
  obtain ⟨hhead, hbefore⟩ := endsInClosing_iff.1 ⟨front, n, rfl, h⟩
  have hright : (front ++ List.replicate (n + 1) '#').reverse.dropWhile Text.isBlank =
      (front ++ List.replicate (n + 1) '#').reverse := by
    rw [List.reverse_append, List.reverse_replicate]
    exact List.dropWhile_cons_of_neg (by decide)
  unfold withoutClosing
  simp only [hright]
  rw [if_pos (by rw [hhead, hbefore]; rfl), dropWhile_hashes (hash_not_mem_of_isBlank h), List.reverse_reverse]

/-- A closing run by itself leaves nothing. -/
theorem withoutClosing_hashes (n : Nat) : withoutClosing (List.replicate n '#') = [] := by
  have hempty : ∀ c ∈ ([] : Text).getLast?, Text.isBlank c = true := by simp
  cases n with
  | zero => rfl
  | succ n => exact withoutClosing_closed hempty n

/-- A trimmed text is all that is read of it exactly if it does not end in a closing run. -/
theorem withoutClosing_eq_self_iff {t : Text} (h : Text.trim t = t) : withoutClosing t = t ↔ ¬ EndsInClosing t := by
  constructor
  · rintro heq ⟨front, n, rfl, hblank⟩
    -- without the run there is less than there was
    have hlength := congrArg List.length heq
    have hle : (Text.trim front).length ≤ front.length :=
      (Text.length_trimRight_le _).trans (List.dropWhile_sublist _).length_le
    rw [withoutClosing_closed hblank, List.length_append, List.length_replicate] at hlength
    omega
  · intro hends
    have hright : t.reverse.dropWhile Text.isBlank = t.reverse := by
      rw [← List.reverse_reverse (List.dropWhile _ _)]
      exact congrArg List.reverse (Text.ends_of_trim h).2
    unfold withoutClosing
    simp only [hright]
    rw [if_neg, h]
    rwa [Bool.and_eq_true, beq_iff_eq, ← endsInClosing_iff]

/-! ## Heading lines -/

/-- A heading of a level as a line, with a closing run of some hashes behind a space or without one. -/
def headingLine (level : Nat) (heading : Text) (closing : Nat) : Text :=
  List.replicate level '#' ++ ' ' :: (heading ++ if closing = 0 then [] else ' ' :: List.replicate closing '#')

theorem hashHeading?_written {level : Nat} (h1 : 1 ≤ level) (h6 : level ≤ 6) (rest : Text) :
    hashHeading? (List.replicate level '#' ++ ' ' :: rest) =
      some (.hashHeading level (withoutClosing (Text.trimLeft rest))) :=
  hashHeading?_eq_some_iff.2 ⟨level, ' ', rest, h1, h6, isBlank_space, rfl, rfl⟩

theorem hashHeading?_headingLine {level : Nat} (h1 : 1 ≤ level) (h6 : level ≤ 6) {heading : Text}
    (htrim : Text.trim heading = heading) (closing : Nat) :
    hashHeading? (headingLine level heading closing) =
      some (.hashHeading level (if closing = 0 then withoutClosing heading else heading)) := by
  obtain ⟨hleft, hright⟩ := Text.ends_of_trim htrim
  rw [headingLine, hashHeading?_written h1 h6]
  cases closing with
  | zero => rw [if_pos rfl, if_pos rfl, List.append_nil, hleft]
  | succ n =>
    rw [if_neg n.succ_ne_zero, if_neg n.succ_ne_zero]
    congr 2
    rcases eq_or_ne heading [] with rfl | hne
    · -- all whitespace goes with the space behind the level
      rw [List.nil_append, Text.trimLeft_space, Text.trimLeft, List.replicate_succ,
        List.dropWhile_cons_of_neg (by decide), ← List.replicate_succ]
      exact withoutClosing_hashes (n + 1)
    · rw [Text.trimLeft_append hleft hne, List.append_cons, withoutClosing_closed, Text.trim,
        Text.trimLeft_append hleft hne, Text.trimRight_append rfl, hright]
      rw [List.getLast?_concat]
      rintro c ⟨⟩
      exact isBlank_space

/-- Nothing stands in front of the hashes. -/
theorem cons_of_hashHeading? {line : Text} {role : LineRole} (h : hashHeading? line = some role) :
    ∃ rest, line = '#' :: rest := by
  obtain ⟨level, gap, rest, h1, -, -, rfl, -⟩ := hashHeading?_eq_some_iff.1 h
  obtain ⟨n, rfl⟩ := Nat.exists_eq_add_of_le' h1
  exact ⟨List.replicate n '#' ++ gap :: rest, rfl⟩

/-! ## Headings without text -/

/-- Hashes with nothing but whitespace behind them, and at most a closing run. -/
def BareHeading (level : Nat) (line : Text) : Prop :=
  ∃ (gap tail : Text) (n : Nat), gap ≠ [] ∧ Text.isAllBlank gap = true ∧ Text.isAllBlank tail = true ∧
    line = List.replicate level '#' ++ (gap ++ (List.replicate n '#' ++ tail))

theorem withoutClosing_append {t tail : Text} (h : Text.isAllBlank tail = true) :
    withoutClosing (t ++ tail) = withoutClosing t := by
  unfold withoutClosing
  simp only [Text.dropWhile_reverse_append h, Text.trim_append h]

/-- Nothing is left of a text with at most one run of hashes in it and whitespace around them. -/
theorem withoutClosing_eq_nil_iff {t : Text} (h : ∀ c ∈ t.head?, Text.isBlank c = false) :
    withoutClosing t = [] ↔ ∃ (n : Nat) (tail : Text),
        Text.isAllBlank tail = true ∧ t = List.replicate n '#' ++ tail := by
  constructor
  · intro hnone
    obtain ⟨s, tail, hs, htail, rfl⟩ := Text.exists_trimmed h
    rw [withoutClosing_append htail] at hnone
    by_cases hends : EndsInClosing s
    · obtain ⟨front, n, rfl, hlast⟩ := hends
      rw [withoutClosing_closed hlast, Text.trim_eq_nil_iff] at hnone
      rcases front with _ | ⟨c, front⟩
      · exact ⟨n + 1, tail, htail, rfl⟩
      · have hc := (Text.isAllBlank_cons.1 hnone).1
        rw [h c rfl] at hc
        cases hc
    · rw [(withoutClosing_eq_self_iff hs).2 hends] at hnone
      exact ⟨0, tail, htail, by rw [hnone]; rfl⟩
  · rintro ⟨n, tail, htail, rfl⟩
    rw [withoutClosing_append htail, withoutClosing_hashes]

/-- Which lines are headings without text. -/
theorem hashHeading?_eq_bare_iff {line : Text} {level : Nat} (h1 : 1 ≤ level) (h6 : level ≤ 6) :
    hashHeading? line = some (.hashHeading level []) ↔ BareHeading level line := by
  rw [hashHeading?_eq_some_iff]
  constructor
  · rintro ⟨level', c, rest, -, -, hc, rfl, hrole⟩
    obtain ⟨rfl, hempty⟩ := LineRole.hashHeading.inj hrole
    obtain ⟨n, tail, htail, htrim⟩ := (withoutClosing_eq_nil_iff (Text.head?_trimLeft rest)).1 hempty.symm
    obtain ⟨indent, hindent, hrest⟩ := (Text.trimLeft_eq_iff (Text.head?_trimLeft rest)).1 rfl
    exact ⟨c :: indent, tail, n, List.cons_ne_nil _ _, Text.isAllBlank_cons.2 ⟨hc, hindent⟩, htail,
      by rw [List.cons_append, ← htrim, ← hrest]⟩
  · rintro ⟨gap, tail, n, hne, hgap, htail, rfl⟩
    obtain ⟨c, indent, rfl⟩ := List.exists_cons_of_ne_nil hne
    rw [Text.isAllBlank_cons] at hgap
    refine ⟨level, c, indent ++ (List.replicate n '#' ++ tail), h1, h6, hgap.1, rfl, ?_⟩
    rw [eq_comm, LineRole.hashHeading.injEq, and_iff_right rfl, withoutClosing_eq_nil_iff (Text.head?_trimLeft _)]
    cases n with
    | zero => exact ⟨0, [], rfl, Text.trimLeft_eq_nil_iff.2 (Text.isAllBlank_append.2 ⟨hgap.2, htail⟩)⟩
    | succ n =>
      exact ⟨n + 1, tail, htail, (Text.trimLeft_eq_iff (by rintro d ⟨⟩; decide)).2 ⟨indent, hgap.2, rfl⟩⟩

/-! ## In a document -/

/-- A line with the shape of a heading is one wherever no code block is open, and no underline fits it. -/
theorem LineScan.finalRole_hashHeading {s : LineScan} (ho : s.fence.isOpen = false) {line heading : Text} {level : Nat}
    (h : hashHeading? line = some (.hashHeading level heading)) (rest : List Text) :
    s.finalRole line rest = .hashHeading level heading := by
  obtain ⟨below, rfl⟩ := cons_of_hashHeading? h
  have hindent : ∀ c ∈ ([] : Text), Text.isBlank c = true := by simp
  have hfence : s.fence.step ('#' :: below) = (s.fence, false) :=
    FenceState.step_of_ofLine?_eq_none (FenceLine.ofLine?_eq_none hindent (by decide) (by decide))
  have hrole : s.role ('#' :: below) = .hashHeading level heading := by
    rw [s.role_eq, hfence, if_neg Bool.false_ne_true, ho, if_neg Bool.false_ne_true]
    show plainRole s.above _ = _
    unfold plainRole
    have hblank : ¬ Text.isAllBlank ('#' :: below) = true := by
      rw [Text.isAllBlank_cons, show Text.isBlank '#' = false by decide]
      exact fun h => Bool.false_ne_true h.1
    rw [if_neg hblank, h]
  exact (finalRole_eq_iff rfl fun _ => rfl).2 hrole

/-- Text above an underline is visible, and no hashes start it; so a heading without text is one by hashes. -/
theorem LineScan.heading_eq_nil_iff {s : LineScan} {line : Line} {rest : List Text}
    (h : line.role = s.finalRole line.text rest) (hheading : line.role.isHeading = true) :
    line.role.heading = [] ↔ hashHeading? line.text = some (.hashHeading line.role.level []) := by
  have hblank := (line_sound h).blank
  cases hr : line.role with
  | hashHeading level heading =>
    obtain ⟨hread, -⟩ := role_of_finalRole (h.symm.trans hr) rfl
    have hreads := s.reads line.text
    rw [hread] at hreads
    cases hreads with
    | shape hshape =>
      cases hshape with
      | hashHeading _ hsome =>
        rw [hsome]
        simp [LineRole.heading, LineRole.level]
  | underlinedText level heading =>
    rcases s.finalRole_cases line.text rest with ⟨level', -, hfits, hfinal⟩ | ⟨-, hfinal⟩
    · have htrim : heading = Text.trim line.text := by
        rw [hr, hfinal] at h
        exact (LineRole.underlinedText.inj h).2
      have hvisible : heading ≠ [] := by
        rw [htrim, ne_eq, Text.trim_eq_nil_iff]
        intro hall
        rw [hr] at hblank
        cases hblank.2 ⟨hall, rfl⟩
      have hopen : s.fence.isOpen = false :=
        isOpen_of_role (by intro hf; rw [hf] at hfits; cases hfits) (by intro hf; rw [hf] at hfits; cases hfits)
      refine iff_of_false hvisible fun hsome => ?_
      rw [s.finalRole_hashHeading hopen hsome, hr] at h
      cases h
    · have hunder := s.role_isUnderlined line.text
      rw [← hfinal, ← h, hr] at hunder
      cases hunder
  | _ => rw [hr] at hheading; cases hheading

/-- A heading that is written on a line is read back, whatever stands above and below it, as long as no
code block is open; if it has no closing run, it must not end in what would be taken for one. -/
theorem classify_headingLine {level : Nat} (h1 : 1 ≤ level) (h6 : level ≤ 6) {heading : Text}
    (htrim : Text.trim heading = heading) (closing : Nat) {above : List Text}
    (hopen : (FenceState.outside.after above).isOpen = false) (below : List Text) :
    (classify (above ++ headingLine level heading closing :: below))[above.length]? =
        some ⟨above.length + 1, headingLine level heading closing, .hashHeading level heading⟩ ↔
      (closing = 0 → ¬ EndsInClosing heading) := by
  have hline : (above ++ headingLine level heading closing :: below)[above.length]? =
      some (headingLine level heading closing) := by simp
  have houtside : (LineScan.start.after above).fence.isOpen = false := by
    rw [LineScan.fence_after]
    exact hopen
  rw [getElem?_classify hline, List.take_left' rfl,
    LineScan.finalRole_hashHeading houtside (hashHeading?_headingLine h1 h6 htrim closing)]
  simp only [Option.some.injEq, Line.mk.injEq, LineRole.hashHeading.injEq, true_and]
  by_cases hc : closing = 0
  · rw [if_pos hc, withoutClosing_eq_self_iff htrim]
    exact ⟨fun h _ => h, fun h => h hc⟩
  · rw [if_neg hc]
    exact ⟨fun _ hzero => absurd hzero hc, fun _ => rfl⟩

/-- Below a closed code block and above what would underline plain text, a text that ends in a run of
hashes is read with one more behind it, and one whose hashes belong to a word without. -/
theorem classify_headingLine_below_fence :
    (classify ["~~~~".toList, "~~~~".toList, headingLine 2 "The # sign #".toList 3, "===".toList])[2]? =
        some ⟨3, "## The # sign # ###".toList, .hashHeading 2 "The # sign #".toList⟩ ∧
      (classify ([] ++ headingLine 6 "C#".toList 0 :: []))[0]? =
          some ⟨1, "###### C#".toList, .hashHeading 6 "C#".toList⟩ ∧
      (classify ([] ++ headingLine 1 "Issue #".toList 0 :: []))[0]? ≠
        some ⟨1, "# Issue #".toList, .hashHeading 1 "Issue #".toList⟩ := by
  have hfence : (FenceState.outside.after ["~~~~".toList, "~~~~".toList]).isOpen = false := by decide
  have hstart : (FenceState.outside.after []).isOpen = false := rfl
  exact ⟨(classify_headingLine (by decide) (by decide) (by decide) 3 hfence ["===".toList]).2 (by decide),
    (classify_headingLine (by decide) (by decide) (by decide) 0 hstart []).2 (by decide),
    mt (classify_headingLine (by decide) (by decide) (by decide) 0 hstart []).1 (by decide)⟩

end MarkdownStyle
