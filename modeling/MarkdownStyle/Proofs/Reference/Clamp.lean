/-
Blocks given by a caller, with ends outside the document. Usages, definitions and prose are looked up in
ranges that are cut to the document, so for them it does not matter whether the blocks themselves are cut;
nor does it for the comparison of blocks, as long as no two of them share a line. Only the look-out for
breaks counts a start below line one back from the end. It misses breaks there, so that a definition may
be found in front of prose from which a break keeps it apart.
-/
import MarkdownStyle.Proofs.Reference.Placement
import MarkdownStyle.Proofs.Reference.Scan

namespace MarkdownStyle

/-- The block with its start raised to line one and its end lowered to the last line. -/
def Block.clamped (size : Nat) (b : Block) : Block := ⟨max b.first 1, min b.last size⟩

/-- No two of the blocks share a line of the document. -/
def Apart (size : Nat) (bs : List Block) : Prop :=
  bs.Pairwise fun a b => ∀ number ∈ List.range' 1 size, ¬ (a.contains number = true ∧ b.contains number = true)

instance (size : Nat) (bs : List Block) : Decidable (Apart size bs) :=
  inferInstanceAs (Decidable (bs.Pairwise fun a b =>
    ∀ number ∈ List.range' 1 size, ¬ (a.contains number = true ∧ b.contains number = true)))

/-- The label is used first in another one of the blocks, in the order in which they are given. -/
def FirstUsedOutside (doc : List Line) (bs : List Block) (block : Block) (label : Text) : Prop :=
  ∃ other, (firstUses doc bs).lookup (labelKey label) = some other ∧ other ≠ block

instance (doc : List Line) (block : Block) (number : Nat) : Decidable (ProseFollows doc block number) :=
  inferInstanceAs (Decidable (∃ prose ∈ doc, prose.role = .text ∧ number < prose.number ∧
    block.contains prose.number = true ∧
    ∀ line ∈ doc, number < line.number → line.number < prose.number → line.role ≠ .thematicBreak))

/-- If an entry says that prose follows in the block, then no break keeps it apart from that prose. -/
def Misplaced.Justified (doc : List Line) (bs : List Block) (m : Misplaced) : Prop :=
  m.kind = .beforeProse → ∀ block ∈ bs, block.contains m.line = true → ProseFollows doc block m.line

instance (doc : List Line) (bs : List Block) (m : Misplaced) : Decidable (m.Justified doc bs) :=
  inferInstanceAs (Decidable (m.kind = .beforeProse →
    ∀ block ∈ bs, block.contains m.line = true → ProseFollows doc block m.line))

/-! ## Ranges -/

theorem slice_clamped (doc : List Line) (b : Block) :
    slice doc (b.clamped doc.length).first (b.clamped doc.length).last = slice doc b.first b.last := by
  have hstart : (max b.first 1 - 1).toNat = (b.first - 1).toNat := by omega
  have hend : doc.take (min b.last doc.length).toNat = doc.take b.last.toNat := by
    rcases le_total b.last doc.length with h | h
    · rw [min_eq_left h]
    · rw [min_eq_right h, List.take_of_length_le (by omega), List.take_of_length_le (by omega)]
  unfold slice Block.clamped
  simp only
  rw [hstart, hend]

section

variable {doc : List Line} {bs : List Block} {line : Line}

/-- Cutting a block changes nothing for the lines of the document. -/
theorem Block.contains_clamped (hn : Numbered 1 doc) (hm : line ∈ doc) (b : Block) :
    (b.clamped doc.length).contains line.number = b.contains line.number := by
  have hbounds := hn.mem_bounds hm
  unfold Block.contains Block.clamped
  rw [Bool.eq_iff_iff]
  simp only [Bool.and_eq_true, decide_eq_true_eq]
  omega

theorem Apart.eq_of_contains (h : Apart doc.length bs) (hn : Numbered 1 doc) (hm : line ∈ doc) {a b : Block}
    (ha : a ∈ bs) (hb : b ∈ bs) (hca : a.contains line.number = true) (hcb : b.contains line.number = true) :
    a = b := by
  by_contra hne
  have : Std.Symm fun a b : Block =>
      ∀ number ∈ List.range' 1 doc.length, ¬ (a.contains number = true ∧ b.contains number = true) :=
    ⟨fun _ _ hab number hm hboth => hab number hm hboth.symm⟩
  exact List.Pairwise.forall h ha hb hne _ (List.mem_range'_1.2 (hn.mem_bounds hm)) ⟨hca, hcb⟩

/-! ## Usages and definitions -/

theorem usages_clamped (b : Block) :
    usages doc (b.clamped doc.length) = (usages doc b).map (Usage.inBlock (b.clamped doc.length)) := by
  unfold usages
  rw [slice_clamped, List.map_flatMap]
  simp only [map_inBlock_usagesOn]

theorem definitions_clamped (b : Block) :
    definitions doc (b.clamped doc.length) = (definitions doc b).map (Definition.inBlock (b.clamped doc.length)) := by
  unfold definitions
  rw [slice_clamped, map_inBlock_definitionsFrom]

theorem lookup_firstUses_clamped (hn : Numbered 1 doc) (key : Text) :
    (firstUses doc (bs.map (Block.clamped doc.length))).lookup key =
      ((firstUses doc bs).lookup key).map (Block.clamped doc.length) := by
  have husages : (bs.map (Block.clamped doc.length)).flatMap (usages doc) =
      (bs.flatMap (usages doc)).map fun u => u.inBlock (u.block.clamped doc.length) := by
    rw [List.flatMap_map, List.map_flatMap]
    refine List.flatMap_congr fun b _ => ?_
    rw [usages_clamped]
    refine List.map_congr_left fun u hu => ?_
    rw [((mem_usages hn).1 hu).1]
  rw [lookup_firstUses_eq, lookup_firstUses_eq, husages, List.find?_map, Option.map_map, Option.map_map]
  rfl

/-- A block that a label is recorded for is one of the blocks, and has a line of the document. -/
theorem contains_of_lookup_firstUses (hn : Numbered 1 doc) {key : Text} {block : Block}
    (h : (firstUses doc bs).lookup key = some block) :
    block ∈ bs ∧ ∃ line ∈ doc, block.contains line.number = true := by
  rw [lookup_firstUses_eq] at h
  obtain ⟨u, hu, rfl⟩ := Option.map_eq_some_iff.1 h
  obtain ⟨b, hb, hub⟩ := List.mem_flatMap.1 (List.mem_of_find?_eq_some hu)
  obtain ⟨rfl, line, hm, hcon, -⟩ := (mem_usages hn).1 hub
  exact ⟨hb, line, hm, hcon⟩

/-- Blocks with lines of the document stay different when they are cut to it. -/
theorem firstUsedOutside_clamped (hn : Numbered 1 doc) (h : Apart doc.length bs) {block : Block} (hb : block ∈ bs)
    (label : Text) :
    FirstUsedOutside doc (bs.map (Block.clamped doc.length)) (block.clamped doc.length) label ↔
      FirstUsedOutside doc bs block label := by
  unfold FirstUsedOutside
  rw [lookup_firstUses_clamped hn]
  constructor
  · rintro ⟨other', ho, hne⟩
    obtain ⟨other, hother, rfl⟩ := Option.map_eq_some_iff.1 ho
    exact ⟨other, hother, fun heq => hne (congrArg _ heq)⟩
  · rintro ⟨other, ho, hne⟩
    refine ⟨other.clamped doc.length, by rw [ho]; rfl, fun heq => hne ?_⟩
    obtain ⟨hmo, line, hm, hcon⟩ := contains_of_lookup_firstUses hn ho
    have hcon' : block.contains line.number = true := by
      rw [← Block.contains_clamped hn hm, ← heq, Block.contains_clamped hn hm, hcon]
    exact h.eq_of_contains hn hm hmo hb hcon hcon'

/-! ## Breaks -/

theorem proseFollows_clamped (hn : Numbered 1 doc) (block : Block) (number : Nat) :
    ProseFollows doc (block.clamped doc.length) number ↔ ProseFollows doc block number := by
  unfold ProseFollows
  refine exists_congr fun prose => and_congr_right fun hp => ?_
  rw [Block.contains_clamped hn hp]

/-- A block cut to the document starts in it, so all of its breaks are seen. -/
theorem proseSeen_clamped (hn : Numbered 1 doc) {block : Block} (hm : line ∈ doc)
    (hcon : block.contains line.number = true) :
    ProseSeen doc (block.clamped doc.length) line.number ↔ ProseFollows doc block line.number := by
  rw [proseSeen_iff (le_max_right ..) (by rw [Block.contains_clamped hn hm, hcon]), proseFollows_clamped hn]

/-! ## The check -/

theorem any_lookup_firstUses (doc : List Line) (bs : List Block) (block : Block) (label : Text) :
    ((firstUses doc bs).lookup (labelKey label)).any (· != block) = true ↔ FirstUsedOutside doc bs block label := by
  rw [Option.any_eq_true]
  simp only [bne_iff_ne, FirstUsedOutside]

/-- Cutting the blocks leaves the verdict on a definition as it is, except that prose below it no longer counts
where a break that was not looked at keeps the two apart. -/
theorem misplacement?_clamped (hn : Numbered 1 doc) (h : Apart doc.length bs) {block : Block} (hb : block ∈ bs)
    {d : Definition} (hd : d ∈ definitions doc block) (kind : Misplacement) :
    (d.inBlock (block.clamped doc.length)).misplacement? (firstUses doc (bs.map (Block.clamped doc.length)))
        (parts doc (block.clamped doc.length)) = some kind ↔
      d.misplacement? (firstUses doc bs) (parts doc block) = some kind ∧
        (kind = .beforeProse → ProseFollows doc block d.line) := by
  obtain ⟨line, hm, hcon, hr, hl, hdb⟩ := definition_line hn hd
  have hcon' : (block.clamped doc.length).contains line.number = true := by rw [Block.contains_clamped hn hm, hcon]
  rw [misplacement?_iff (d := d.inBlock (block.clamped doc.length)) hn hm hr hcon' rfl hl rfl,
    misplacement?_iff hn hm hr hcon rfl hl hdb, hl]
  cases kind with
  | otherBlock =>
    simp only [any_lookup_firstUses, firstUsedOutside_clamped hn h hb, reduceCtorEq, false_implies, and_true]
  | beforeProse =>
    simp only [← Bool.not_eq_true, any_lookup_firstUses, firstUsedOutside_clamped hn h hb, proseSeen_clamped hn hm hcon,
      forall_const]
    constructor
    · rintro ⟨hin, hfollows⟩; exact ⟨⟨hin, hfollows.seen⟩, hfollows⟩
    · rintro ⟨⟨hin, -⟩, hfollows⟩; exact ⟨hin, hfollows⟩

/-- The entries for the definitions of one block. -/
def Block.entries (doc : List Line) (known : List (Text × Block)) (block : Block) : List Misplaced :=
  (definitions doc block).filterMap fun d =>
    (d.misplacement? known (parts doc block)).map fun kind => ⟨d.line, d.label, kind, excerptAt doc d.line⟩

theorem misplacedDefinitions_eq_flatMap (doc : List Line) (bs : List Block) :
    misplacedDefinitions doc bs = bs.flatMap (Block.entries doc (firstUses doc bs)) := rfl

/-- Cut to the document, a block yields the entries that are justified. -/
theorem entries_clamped (hn : Numbered 1 doc) (h : Apart doc.length bs) {block : Block} (hb : block ∈ bs) :
    (block.clamped doc.length).entries doc (firstUses doc (bs.map (Block.clamped doc.length))) =
      (block.entries doc (firstUses doc bs)).filter fun m => m.Justified doc bs := by
  unfold Block.entries
  rw [definitions_clamped, List.filterMap_map, List.filter_filterMap]
  refine List.filterMap_congr fun d hd => Option.ext fun m => ?_
  obtain ⟨line, hm, hcon, -, hl, -⟩ := definition_line hn hd
  -- the block of the definition is the only one around it
  have hjustified : ∀ kind, (⟨d.line, d.label, kind, excerptAt doc d.line⟩ : Misplaced).Justified doc bs ↔
      (kind = .beforeProse → ProseFollows doc block d.line) := by
    refine fun kind => forall_congr' fun _ => ?_
    constructor
    · intro hall
      exact hall block hb (by rw [hl, hcon])
    · intro hfollows other ho hoc
      rw [hl] at hoc
      rwa [h.eq_of_contains hn hm ho hb hoc hcon]
  simp only [Function.comp_apply, Option.filter_eq_some_iff, Option.map_eq_some_iff, decide_eq_true_eq]
  constructor
  · rintro ⟨kind, hk, rfl⟩
    obtain ⟨hk, hfollows⟩ := (misplacement?_clamped hn h hb hd kind).1 hk
    exact ⟨⟨kind, hk, rfl⟩, (hjustified kind).2 hfollows⟩
  · rintro ⟨⟨kind, hk, rfl⟩, hj⟩
    exact ⟨kind, (misplacement?_clamped hn h hb hd kind).2 ⟨hk, (hjustified kind).1 hj⟩, rfl⟩

/-- An entry on prose that follows is justified for all blocks that start in the document. -/
theorem forall_justified_iff (hn : Numbered 1 doc) (h : Apart doc.length bs) :
    (∀ m ∈ misplacedDefinitions doc bs, m.Justified doc bs) ↔
      ∀ block ∈ bs, block.first < 1 → ∀ line ∈ doc, ∀ label, line.role = .definition label →
        block.contains line.number = true → ¬ FirstUsedOutside doc bs block label →
        ProseSeen doc block line.number → ProseFollows doc block line.number := by
  constructor
  · intro hall block hb _ line hm label hr hcon hin hseen
    obtain ⟨d, hd, hdl, hdn, hdb⟩ := mem_definitionsFrom.2 ⟨line, hn.mem_slice.2 ⟨hm, hcon⟩, hr, rfl⟩
    have hk : d.misplacement? (firstUses doc bs) (parts doc block) = some .beforeProse := by
      rw [misplacement?_iff hn hm hr hcon hdl hdn hdb]
      exact ⟨by rwa [← Bool.not_eq_true, any_lookup_firstUses], hseen⟩
    have hentry := mem_misplacedDefinitions.2 ⟨block, hb, d, hd, _, hk, rfl⟩
    have hj : ProseFollows doc block d.line := hall _ hentry rfl block hb (by simp only; rw [hdn, hcon])
    rwa [hdn] at hj
  · intro hall m hmem hkind block hb hcon
    obtain ⟨block', hb', d, hd, kind, hk, rfl⟩ := mem_misplacedDefinitions.1 hmem
    obtain ⟨line, hm, hcon', hr, hl, hdb⟩ := definition_line hn hd
    simp only at hkind hcon ⊢
    subst hkind
    rw [hl] at hcon ⊢
    have hsame : block' = block := h.eq_of_contains hn hm hb' hb hcon' hcon
    subst hsame
    obtain ⟨hin, hseen⟩ := (misplacement?_iff hn hm hr hcon rfl hl hdb _ _).1 hk
    rw [← Bool.not_eq_true, any_lookup_firstUses] at hin
    by_cases hfirst : block'.first < 1
    · exact hall block' hb hfirst line hm d.label hr hcon hin hseen
    · exact (proseSeen_iff (by omega) hcon).1 hseen

end

/-- With the blocks cut to the document, the report keeps just those entries that are justified. It is the
same report iff no block that starts below line one has a definition above prose where a break stands between
the two that is not looked at. -/
theorem misplacedDefinitions_clamped (lines : List Text) (bs : List Block) (h : Apart lines.length bs) :
    let doc := classify lines
    let report := misplacedDefinitions doc bs
    let clamped := misplacedDefinitions doc (bs.map (Block.clamped lines.length))
    (clamped = report.filter fun m => m.Justified doc bs) ∧
      (clamped = report ↔
        ∀ block ∈ bs, block.first < 1 → ∀ line ∈ doc, ∀ label, line.role = .definition label →
          block.contains line.number = true → ¬ FirstUsedOutside doc bs block label →
          ProseSeen doc block line.number → ProseFollows doc block line.number) := by
  intro doc report clamped
  have hn : Numbered 1 doc := numbered_classify lines
  have hlength : doc.length = lines.length := length_classify lines
  rw [← hlength] at h
  have hfilter : clamped = report.filter fun m => m.Justified doc bs := by
    unfold clamped report
    rw [← hlength, misplacedDefinitions_eq_flatMap, misplacedDefinitions_eq_flatMap, List.flatMap_map,
      List.filter_flatMap]
    exact List.flatMap_congr fun block hb => entries_clamped hn h hb
  refine ⟨hfilter, ?_⟩
  rw [hfilter, List.filter_eq_self, ← forall_justified_iff hn h]
  simp only [decide_eq_true_eq]
  rfl

/-- The second block starts below line one, but no break stands between its definition and the prose. -/
theorem misplacedDefinitions_clamped_of_prose :
    let lines := ["[a]: x".toList, [], "prose [b]".toList, "***".toList, "[b]: y".toList]
    let bs : List Block := [⟨5, 9⟩, ⟨-1, 4⟩]
    Apart lines.length bs ∧
      misplacedDefinitions (classify lines) (bs.map (Block.clamped lines.length)) =
        misplacedDefinitions (classify lines) bs := by
  intro lines bs
  have hapart : Apart lines.length bs := by decide
  refine ⟨hapart, (misplacedDefinitions_clamped lines bs hapart).2.2
    fun block hb hfirst line hm label hr hcon _ _ => ?_⟩
  have hall : ∀ block ∈ bs, block.first < 1 → ∀ line ∈ classify lines, block.contains line.number = true →
      ProseFollows (classify lines) block line.number ∨ line.role ∈ [.blank, .text, .thematicBreak] := by
    decide +kernel
  rcases hall block hb hfirst line hm hcon with h | h
  · exact h
  · rw [hr] at h; simp at h

/-- Looked through from the last line on, the block shows no break, and its definition seems to stand above
prose. -/
theorem misplacedDefinitions_clamped_ne :
    let lines := ["[a]: x".toList, "***".toList, "b".toList]
    let bs : List Block := [⟨0, 3⟩]
    Apart lines.length bs ∧
      misplacedDefinitions (classify lines) bs = [⟨1, ['a'], .beforeProse, "[a]: x".toList⟩] ∧
        misplacedDefinitions (classify lines) (bs.map (Block.clamped lines.length)) = [] := by
  decide +kernel

end MarkdownStyle
