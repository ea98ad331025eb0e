/-
What the check of definition places reports, in terms of the lines of the document alone: where a
label is used first, in which content block a definition stands, and whether prose of its part
follows. The check itself goes block by block and works on ranges, indexes and parts; each of
these is related to the lines before the report is.
-/
import MarkdownStyle.Proofs.Structure.Partition
import MarkdownStyle.Reference.Placement

namespace MarkdownStyle

/-! ## The specification -/

/-- The lines of prose that use a label. -/
def Line.Uses (line : Line) (key : Text) : Prop :=
  (line.role = .text ∨ line.role = .continuation) ∧ key ∈ usedLabels line.text

/-- The line where a label is used first. -/
structure FirstUse (doc : List Line) (key : Text) (line : Line) : Prop where
  mem : line ∈ doc
  uses : line.Uses key
  least : ∀ other ∈ doc, other.Uses key → line.number ≤ other.number

/-- The label is used, but first outside the block. -/
def UsedElsewhere (doc : List Line) (block : Block) (label : Text) : Prop :=
  ∃ use, FirstUse doc (labelKey label) use ∧ block.contains use.number = false

/-- Below a line, a block has text with no break in between. -/
def ProseFollows (doc : List Line) (block : Block) (number : Nat) : Prop :=
  ∃ prose ∈ doc, prose.role = .text ∧ number < prose.number ∧ block.contains prose.number = true ∧
    ∀ line ∈ doc, number < line.number → line.number < prose.number → line.role ≠ .thematicBreak

/-- When a definition of `label` at a line of `block` is misplaced in a given way. -/
def Misplacement.Applies (doc : List Line) (block : Block) (label : Text) (number : Nat) :
    Misplacement → Prop
  | otherBlock => UsedElsewhere doc block label
  | beforeProse => ¬ UsedElsewhere doc block label ∧ ProseFollows doc block number

/-! ## First uses -/

theorem lookup_foldl_recordFirst (us : List Usage) (known : List (Text × Block)) (key : Text) :
    (us.foldl recordFirst known).lookup key =
      (known.lookup key).or ((us.find? (·.label == key)).map (·.block)) := by
  induction us generalizing known with
  | nil => rw [List.foldl_nil, List.find?_nil, Option.map_none, Option.or_none]
  | cons u rest ih =>
    rw [List.foldl_cons, ih, List.find?_cons]
    -- what is recorded already wins over the usages to come
    unfold recordFirst
    split
    · rename_i hk
      by_cases hu : u.label = key
      · obtain ⟨b, hb⟩ := Option.isSome_iff_exists.1 hk
        rw [hu] at hb
        simp [hb]
      · have hne : (u.label == key) = false := by simpa using hu
        rw [hne]
    · rename_i hk
      rw [List.lookup_append]
      by_cases hu : u.label = key
      · rw [hu, Bool.not_eq_true, Option.isSome_eq_false_iff, Option.isNone_iff_eq_none] at hk
        simp [hu, hk]
      · have hne : (u.label == key) = false := by simpa using hu
        have hne' : (key == u.label) = false := by simpa using Ne.symm hu
        simp [hne, hne', List.lookup_cons]

theorem lookup_firstUses_eq (doc : List Line) (bs : List Block) (key : Text) :
    (firstUses doc bs).lookup key = ((bs.flatMap (usages doc)).find? (·.label == key)).map (·.block) := by
  rw [firstUses, lookup_foldl_recordFirst]
  rfl

theorem mem_usagesOn {block : Block} {line : Line} {u : Usage} :
    u ∈ usagesOn block line ↔ line.Uses u.label ∧ u.line = line.number ∧ u.block = block := by
  obtain ⟨label, number, b⟩ := u
  unfold usagesOn Line.Uses
  rcases hr : line.role <;> simp [eq_comm]

/-- In an ordered list, what a search finds comes first among all it could find. -/
theorem rel_of_find? {α : Type} {R : α → α → Prop} {p : α → Bool} {xs : List α} (hs : xs.Pairwise R)
    {x y : α} (hx : xs.find? p = some x) (hy : y ∈ xs) (hp : p y = true) : x = y ∨ R x y := by
  induction xs with
  | nil => cases hy
  | cons top rest ih =>
    obtain ⟨htop, hrest⟩ := List.pairwise_cons.1 hs
    rw [List.find?_cons] at hx
    split at hx
    · cases hx
      rcases List.mem_cons.1 hy with rfl | hy
      · exact .inl rfl
      · exact .inr (htop y hy)
    · rename_i hne
      rcases List.mem_cons.1 hy with rfl | hy
      · rw [hp] at hne; cases hne
      · exact ih hrest hx hy

section

variable {doc : List Line} {bs : List Block} {last : Nat}

theorem mem_usages (hn : Numbered 1 doc) {block : Block} {u : Usage} :
    u ∈ usages doc block ↔
      u.block = block ∧ ∃ line ∈ doc, block.contains line.number = true ∧ line.Uses u.label ∧
        u.line = line.number := by
  unfold usages
  rw [List.mem_flatMap]
  simp only [hn.mem_slice, mem_usagesOn]
  constructor
  · rintro ⟨line, ⟨hm, hc⟩, hu, hl, hb⟩; exact ⟨hb, line, hm, hc, hu, hl⟩
  · rintro ⟨hb, line, hm, hc, hu, hl⟩; exact ⟨line, ⟨hm, hc⟩, hu, hl, hb⟩

theorem pairwise_usages (hn : Numbered 1 doc) (hf : BlocksFit 1 last bs) :
    (bs.flatMap (usages doc)).Pairwise fun a b => a.line ≤ b.line := by
  rw [List.pairwise_flatMap]
  -- within a block the lines are in order, and across blocks the blocks are
  refine ⟨fun block _ => ?_, hf.ordered.imp_of_mem fun {a b} _ _ hab u hu v hv => ?_⟩
  · unfold usages
    rw [List.pairwise_flatMap]
    constructor
    · intro line _
      refine List.pairwise_of_forall_mem_list fun u hu v hv => ?_
      rw [(mem_usagesOn.1 hu).2.1, (mem_usagesOn.1 hv).2.1]
    · rw [hn.slice_eq_filter]
      refine (hn.pairwise.filter _).imp fun {x y} hxy u hu v hv => ?_
      rw [(mem_usagesOn.1 hu).2.1, (mem_usagesOn.1 hv).2.1]
      exact hxy.le
  · obtain ⟨-, x, -, hx, -, hux⟩ := (mem_usages hn).1 hu
    obtain ⟨-, y, -, hy, -, hvy⟩ := (mem_usages hn).1 hv
    simp only [Block.contains, Bool.and_eq_true, decide_eq_true_eq] at hx hy
    omega

/-- Every line of prose lies in one of the blocks. -/
def ProseCovered (doc : List Line) (bs : List Block) : Prop :=
  ∀ line ∈ doc, line.role.isFree = true → ∃ b ∈ bs, b.contains line.number = true

theorem Line.Uses.isFree {line : Line} {key : Text} (h : line.Uses key) : line.role.isFree = true := by
  rcases h.1 with hr | hr <;> rw [hr] <;> rfl

/-- The index of first uses holds for each label the block of its first use. -/
theorem lookup_firstUses (hn : Numbered 1 doc) (hf : BlocksFit 1 last bs) (hc : ProseCovered doc bs)
    {key : Text} {block : Block} :
    (firstUses doc bs).lookup key = some block ↔
      block ∈ bs ∧ ∃ use, FirstUse doc key use ∧ block.contains use.number = true := by
  have hfound : ∀ block, (firstUses doc bs).lookup key = some block →
      block ∈ bs ∧ ∃ use, FirstUse doc key use ∧ block.contains use.number = true := by
    intro block h
    rw [lookup_firstUses_eq] at h
    obtain ⟨u, hu, rfl⟩ := Option.map_eq_some_iff.1 h
    have hk : u.label = key := by simpa using List.find?_some hu
    obtain ⟨b, hb, hub⟩ := List.mem_flatMap.1 (List.mem_of_find?_eq_some hu)
    obtain ⟨rfl, line, hm, hcon, huses, hline⟩ := (mem_usages hn).1 hub
    refine ⟨hb, line, ⟨hm, hk ▸ huses, fun other ho hou => ?_⟩, hcon⟩
    -- any other use is recorded from its own block, so the search would have come to it first
    obtain ⟨b', hb', hcon'⟩ := hc other ho hou.isFree
    have hmem : (⟨key, other.number, b'⟩ : Usage) ∈ bs.flatMap (usages doc) :=
      List.mem_flatMap.2 ⟨b', hb', (mem_usages hn).2 ⟨rfl, other, ho, hcon', hou, rfl⟩⟩
    rw [← hline]
    rcases rel_of_find? (pairwise_usages hn hf) hu hmem (by simp) with rfl | h
    · exact le_rfl
    · exact h
  refine ⟨hfound block, ?_⟩
  rintro ⟨hb, use, huse, hcon⟩
  rcases h : (firstUses doc bs).lookup key with _ | other
  · have hmem : (⟨key, use.number, block⟩ : Usage) ∈ bs.flatMap (usages doc) :=
      List.mem_flatMap.2 ⟨block, hb, (mem_usages hn).2 ⟨rfl, use, huse.mem, hcon, huse.uses, rfl⟩⟩
    rw [lookup_firstUses_eq, Option.map_eq_none_iff, List.find?_eq_none] at h
    exact absurd (by simp) (h _ hmem)
  · obtain ⟨ho, use', huse', hcon'⟩ := hfound other h
    have h1 := huse.least use' huse'.mem huse'.uses
    have h2 := huse'.least use huse.mem huse.uses
    rw [Nat.le_antisymm h2 h1] at hcon'
    rw [hf.eq_of_contains ho hb hcon' hcon]

/-- The index holds another block than the one at hand iff the first use lies outside. -/
theorem lookup_firstUses_ne (hn : Numbered 1 doc) (hf : BlocksFit 1 last bs) (hc : ProseCovered doc bs)
    (label : Text) {block : Block} (hb : block ∈ bs) :
    ((firstUses doc bs).lookup (labelKey label)).any (· != block) = true ↔ UsedElsewhere doc block label := by
  rw [Option.any_eq_true]
  constructor
  · rintro ⟨other, ho, hne⟩
    rw [bne_iff_ne] at hne
    obtain ⟨hmo, use, huse, hcon⟩ := (lookup_firstUses hn hf hc).1 ho
    refine ⟨use, huse, ?_⟩
    by_contra h
    exact hne (hf.eq_of_contains hmo hb hcon (by simpa using h))
  · rintro ⟨use, huse, hout⟩
    obtain ⟨other, ho, hcon⟩ := hc use huse.mem huse.uses.isFree
    refine ⟨other, (lookup_firstUses hn hf hc).2 ⟨ho, use, huse, hcon⟩, ?_⟩
    rw [bne_iff_ne]
    rintro rfl
    rw [hcon] at hout
    cases hout

end

/-! ## Definitions of a block -/

theorem mem_definitionsFrom {block : Block} {lines : List Line} {label : Text} {number : Nat} :
    (∃ d ∈ definitionsFrom block lines, d.label = label ∧ d.line = number ∧ d.block = block) ↔
      ∃ line ∈ lines, line.role = .definition label ∧ line.number = number := by
  induction lines with
  | nil => simp [definitionsFrom]
  | cons line rest ih =>
    unfold definitionsFrom
    rcases hr : line.role <;> simp [hr, ih]

theorem definitionsFrom_block {block : Block} {lines : List Line} {d : Definition}
    (h : d ∈ definitionsFrom block lines) : d.block = block := by
  induction lines with
  | nil => cases h
  | cons line rest ih =>
    unfold definitionsFrom at h
    split at h
    · rcases List.mem_cons.1 h with rfl | h
      · rfl
      · exact ih h
    · exact ih h

theorem map_line_definitionsFrom (block : Block) (lines : List Line) :
    ((definitionsFrom block lines).map (·.line)).Sublist (lines.map (·.number)) := by
  induction lines with
  | nil => exact List.Sublist.slnil
  | cons line rest ih =>
    unfold definitionsFrom
    split
    · exact ih.cons_cons _
    · exact ih.cons _

/-! ## Parts of a block -/

/-- The first part around a line that is no break reaches to the next break, or to the end of the
block. -/
theorem find?_partBounds {first last : Int} {lines : List Line} {n : Int}
    (hs : lines.Pairwise (·.number < ·.number)) (h1 : first ≤ n) (h2 : n ≤ last)
    (hin : ∀ line ∈ lines, first ≤ line.number ∧ (line.number : Int) ≤ last)
    (hn : ∀ line ∈ lines, line.role = .thematicBreak → (line.number : Int) ≠ n) :
    ∃ a b, (partBounds first last lines).find? (fun p => p.1 ≤ n && n ≤ p.2) = some (a, b) ∧ b ≤ last ∧
      ∀ t : Int, n < t → t ≤ last →
        (t ≤ b ↔ ∀ line ∈ lines, n < line.number → (line.number : Int) ≤ t → line.role ≠ .thematicBreak) := by
  induction lines generalizing first with
  | nil => exact ⟨first, last, by simp [partBounds, h1, h2], le_rfl, by simp⟩
  | cons top rest ih =>
    obtain ⟨htop, hrest⟩ := List.pairwise_cons.1 hs
    have hin' := fun line h => hin line (List.mem_cons_of_mem _ h)
    have hn' := fun line h => hn line (List.mem_cons_of_mem _ h)
    unfold partBounds
    by_cases hr : top.role = .thematicBreak
    · have hne := hn top (List.mem_cons_self ..) hr
      rw [if_pos (by simp [hr])]
      by_cases hbelow : n < top.number
      · -- the break ends the part of the line
        refine ⟨first, top.number - 1, ?_, by have := hin top (List.mem_cons_self ..); omega, fun t ht hl => ?_⟩
        · rw [List.find?_cons_of_pos]
          simp only [Bool.and_eq_true, decide_eq_true_eq]
          omega
        · constructor
          · intro h line hm hlow hup
            rcases List.mem_cons.1 hm with rfl | hm
            · omega
            · have := htop line hm
              omega
          · intro h
            by_contra hup
            exact h top (List.mem_cons_self ..) hbelow (by omega) hr
      · -- the break lies above the line, whose part starts below it
        have hin'' : ∀ line ∈ rest, (top.number + 1 : Int) ≤ line.number ∧ (line.number : Int) ≤ last :=
          fun line hm => ⟨by have := htop line hm; omega, (hin' line hm).2⟩
        obtain ⟨a, b, hf, hlast, hb⟩ := ih hrest (by omega) hin'' hn'
        refine ⟨a, b, ?_, hlast, fun t ht hl => ?_⟩
        · rw [List.find?_cons_of_neg, hf]
          simp only [Bool.and_eq_true, decide_eq_true_eq]
          omega
        · rw [hb t ht hl, List.forall_mem_cons]
          constructor
          · intro h; exact ⟨fun _ => by omega, h⟩
          · exact And.right
    · rw [if_neg (by simp [hr])]
      obtain ⟨a, b, hf, hlast, hb⟩ := ih hrest h1 hin' hn'
      refine ⟨a, b, hf, hlast, fun t ht hl => ?_⟩
      rw [hb t ht hl, List.forall_mem_cons]
      constructor
      · intro h; exact ⟨fun _ _ => hr, h⟩
      · exact And.right

/-- The line from which on a block is looked through for breaks: its first line, or for a block that starts
below line one a line counted back from the end of the document. -/
def Block.breaksFrom (size : Nat) (b : Block) : Int := if b.first < 1 then size + b.first else b.first

theorem breakLines_eq_slice (doc : List Line) (block : Block) :
    breakLines doc block = slice doc (block.breaksFrom doc.length) block.last := by
  unfold breakLines slice Block.breaksFrom
  simp only
  congr 2
  split <;> split <;> omega

/-- Below a line, a block has text with no break in between that the check sees. -/
def ProseSeen (doc : List Line) (block : Block) (number : Nat) : Prop :=
  ∃ prose ∈ doc, prose.role = .text ∧ number < prose.number ∧ block.contains prose.number = true ∧
    ∀ line ∈ doc, block.breaksFrom doc.length ≤ line.number → number < line.number → line.number < prose.number →
      line.role ≠ .thematicBreak

/-- The check sees no breaks that are not there. -/
theorem ProseFollows.seen {doc : List Line} {block : Block} {number : Nat} (h : ProseFollows doc block number) :
    ProseSeen doc block number := by
  obtain ⟨prose, hp, ht, hlt, hcon, hfree⟩ := h
  exact ⟨prose, hp, ht, hlt, hcon, fun line hm _ hlow hup => hfree line hm hlow hup⟩

/-- All breaks are seen in a block that starts in the document. -/
theorem proseSeen_iff {doc : List Line} {block : Block} (hb : 1 ≤ block.first) {number : Nat}
    (hc : block.contains number = true) : ProseSeen doc block number ↔ ProseFollows doc block number := by
  have hfrom : block.breaksFrom doc.length = block.first := if_neg (by omega)
  have hfirst : block.first ≤ number := by
    simp only [Block.contains, Bool.and_eq_true, decide_eq_true_eq] at hc
    exact hc.1
  refine ⟨?_, ProseFollows.seen⟩
  rintro ⟨prose, hp, ht, hlt, hcon, hfree⟩
  exact ⟨prose, hp, ht, hlt, hcon, fun line hm hlow hup => hfree line hm (by omega) hlow hup⟩

theorem lt_lastProse_iff {doc : List Line} (hn : Numbered 1 doc) {first last : Int} {n : Nat} :
    n < lastProse doc first last ↔
      ∃ t ∈ doc, t.role = .text ∧ n < t.number ∧ first ≤ t.number ∧ (t.number : Int) ≤ last := by
  have hmem : ∀ {t : Line}, t ∈ slice doc first last ↔
      t ∈ doc ∧ first ≤ t.number ∧ (t.number : Int) ≤ last := by
    intro t
    rw [hn.slice_eq_filter]
    simp
  have hs : (slice doc first last).reverse.Pairwise fun a b => b.number < a.number := by
    rw [List.pairwise_reverse, hn.slice_eq_filter]
    exact hn.pairwise.filter _
  unfold lastProse
  cases hf : (slice doc first last).reverse.find? (·.role == .text) with
  | none =>
    rw [List.find?_eq_none] at hf
    simp only [Option.map_none, Option.getD_none, Nat.not_lt_zero, false_iff]
    rintro ⟨t, ht, hr, -, hb⟩
    exact hf t (List.mem_reverse.2 (hmem.2 ⟨ht, hb⟩)) (by simp [hr])
  | some last' =>
    obtain ⟨hm, hb⟩ := hmem.1 (List.mem_reverse.1 (List.mem_of_find?_eq_some hf))
    simp only [Option.map_some, Option.getD_some]
    constructor
    · intro h
      exact ⟨last', hm, by simpa using List.find?_some hf, h, hb⟩
    · rintro ⟨t, ht, hr, hlt, hb'⟩
      rcases rel_of_find? hs hf (List.mem_reverse.2 (hmem.2 ⟨ht, hb'⟩)) (by simp [hr]) with rfl | h
      · exact hlt
      · exact hlt.trans h

section

variable {doc : List Line} {bs : List Block} {last : Nat}

/-- Whether prose is seen below a definition is decided by the first part around it. -/
theorem find?_parts (hn : Numbered 1 doc) {block : Block} {line : Line} (hm : line ∈ doc)
    (hc : block.contains line.number = true) (hr : line.role ≠ .thematicBreak) :
    ∃ p, (parts doc block).find? (fun p => p.first ≤ (line.number : Int) && (line.number : Int) ≤ p.last) = some p ∧
      (line.number < p.lastProse ↔ ProseSeen doc block line.number) := by
  have hbounds : ∀ x : Line, block.contains x.number = true ↔
      block.first ≤ x.number ∧ (x.number : Int) ≤ block.last := by
    intro x; simp [Block.contains]
  obtain ⟨h1, h2⟩ := (hbounds line).1 hc
  have hmem : ∀ x, x ∈ breakLines doc block ↔
      x ∈ doc ∧ block.breaksFrom doc.length ≤ x.number ∧ (x.number : Int) ≤ block.last := by
    intro x
    rw [breakLines_eq_slice, hn.slice_eq_filter]
    simp
  have hs : (breakLines doc block).Pairwise (·.number < ·.number) := by
    rw [breakLines_eq_slice, hn.slice_eq_filter]
    exact hn.pairwise.filter _
  have hin : ∀ x ∈ breakLines doc block, block.first ≤ x.number ∧ (x.number : Int) ≤ block.last := by
    intro x hx
    obtain ⟨-, hfrom, hlast⟩ := (hmem x).1 hx
    unfold Block.breaksFrom at hfrom
    split at hfrom <;> omega
  obtain ⟨a, b, hf, hlast, hcut⟩ := find?_partBounds hs h1 h2 hin
    (fun x hx hbr he => hr (hn.eq_of_number hm ((hmem x).1 hx).1 (by omega) ▸ hbr))
  refine ⟨⟨a, b, lastProse doc a b⟩, ?_, ?_⟩
  · unfold parts
    rw [List.find?_map]
    have : ((fun p : Part => decide (p.first ≤ (line.number : Int)) && decide ((line.number : Int) ≤ p.last)) ∘
        fun x : Int × Int => (⟨x.1, x.2, lastProse doc x.1 x.2⟩ : Part)) =
        fun p => decide (p.1 ≤ (line.number : Int)) && decide ((line.number : Int) ≤ p.2) := rfl
    rw [this, hf]
    rfl
  · have hab := List.find?_some hf
    simp only [Bool.and_eq_true, decide_eq_true_eq] at hab
    rw [lt_lastProse_iff hn]
    -- prose up to the end of the part is prose with no break in between
    constructor
    · rintro ⟨t, ht, htext, hlt, -, hle⟩
      refine ⟨t, ht, htext, hlt, (hbounds t).2 (by omega), fun x hx hfrom hlow hup => ?_⟩
      exact (hcut t.number (by omega) (by omega)).1 hle x ((hmem x).2 ⟨hx, hfrom, by omega⟩) (by omega) (by omega)
    · rintro ⟨t, ht, htext, hlt, hin, hfree⟩
      have hin := (hbounds t).1 hin
      refine ⟨t, ht, htext, hlt, by omega, (hcut t.number (by omega) hin.2).2 fun x hx hlow hup => ?_⟩
      obtain ⟨hx, hfrom, -⟩ := (hmem x).1 hx
      rcases Nat.lt_or_ge x.number t.number with h | h
      · exact hfree x hx hfrom (by omega) h
      · rw [hn.eq_of_number hx ht (by omega), htext]
        exact LineRole.noConfusion

/-- The verdict on a definition of a block, given the index of first uses. -/
theorem misplacement?_iff (hn : Numbered 1 doc) {block : Block} {line : Line} (hm : line ∈ doc) {label : Text}
    (hr : line.role = .definition label) (hcon : block.contains line.number = true) {d : Definition}
    (hd : d.label = label) (hl : d.line = line.number) (hdb : d.block = block) (known : List (Text × Block))
    (kind : Misplacement) :
    d.misplacement? known (parts doc block) = some kind ↔
      match kind with
      | .otherBlock => (known.lookup (labelKey label)).any (· != block) = true
      | .beforeProse => (known.lookup (labelKey label)).any (· != block) = false ∧ ProseSeen doc block line.number := by
  obtain ⟨p, hp, hprose⟩ := find?_parts hn hm hcon (by rw [hr]; exact LineRole.noConfusion)
  unfold Definition.misplacement? Definition.key
  rw [hd, hdb, hl, hp]
  cases helse : (known.lookup (labelKey label)).any (· != block) with
  | true => cases kind <;> simp
  | false =>
    simp only [Bool.false_eq_true, if_false]
    by_cases hseen : ProseSeen doc block line.number
    · rw [if_pos (hprose.2 hseen)]
      cases kind <;> simp [hseen]
    · rw [if_neg fun h => hseen (hprose.1 h)]
      cases kind <;> simp [hseen]

/-! ## The check -/

/-- What is wrong with a definition of a block, as the check finds it. -/
theorem misplacement?_eq_some (hn : Numbered 1 doc) (hf : BlocksFit 1 last bs) (hc : ProseCovered doc bs)
    {block : Block} (hb : block ∈ bs) {line : Line} (hm : line ∈ doc) {label : Text}
    (hr : line.role = .definition label) (hcon : block.contains line.number = true) {d : Definition}
    (hd : d.label = label) (hl : d.line = line.number) (hdb : d.block = block) (kind : Misplacement) :
    d.misplacement? (firstUses doc bs) (parts doc block) = some kind ↔
      kind.Applies doc block label line.number := by
  have hfirst := (hf.within block hb).1
  rw [misplacement?_iff hn hm hr hcon hd hl hdb]
  cases kind with
  | otherBlock => exact lookup_firstUses_ne hn hf hc label hb
  | beforeProse =>
    simp only [Misplacement.Applies]
    rw [← Bool.not_eq_true, lookup_firstUses_ne hn hf hc label hb, proseSeen_iff (by omega) hcon]

theorem mem_misplacedDefinitions {m : Misplaced} :
    m ∈ misplacedDefinitions doc bs ↔
      ∃ block ∈ bs, ∃ d ∈ definitions doc block, ∃ kind,
        d.misplacement? (firstUses doc bs) (parts doc block) = some kind ∧
          m = ⟨d.line, d.label, kind, excerptAt doc d.line⟩ := by
  unfold misplacedDefinitions
  simp only [List.mem_flatMap, List.mem_filterMap, Option.map_eq_some_iff]
  constructor
  · rintro ⟨block, hb, d, hd, kind, hk, rfl⟩; exact ⟨block, hb, d, hd, kind, hk, rfl⟩
  · rintro ⟨block, hb, d, hd, kind, hk, rfl⟩; exact ⟨block, hb, d, hd, kind, hk, rfl⟩

/-- A definition of a block comes from a line of the block. -/
theorem definition_line (hn : Numbered 1 doc) {block : Block} {d : Definition} (hd : d ∈ definitions doc block) :
    ∃ line ∈ doc, block.contains line.number = true ∧ line.role = .definition d.label ∧
      d.line = line.number ∧ d.block = block := by
  have hdb : d.block = block := definitionsFrom_block hd
  obtain ⟨line, hm, hr, hl⟩ := mem_definitionsFrom.1 ⟨d, hd, rfl, rfl, hdb⟩
  obtain ⟨hm, hc⟩ := hn.mem_slice.1 hm
  exact ⟨line, hm, hc, hr, hl.symm, hdb⟩

theorem pairwise_misplacedDefinitions (hn : Numbered 1 doc) (hf : BlocksFit 1 last bs) :
    (misplacedDefinitions doc bs).Pairwise fun a b => a.line < b.line := by
  unfold misplacedDefinitions
  rw [List.pairwise_flatMap]
  constructor
  · intro block _
    have h : (definitions doc block).Pairwise fun a b => a.line < b.line := by
      have hs := map_line_definitionsFrom block (slice doc block.first block.last)
      have hp : ((slice doc block.first block.last).map (·.number)).Pairwise (· < ·) := by
        rw [List.pairwise_map, hn.slice_eq_filter]
        exact hn.pairwise.filter _
      have := hp.sublist hs
      rwa [List.pairwise_map] at this
    refine h.filterMap _ fun a b hab m hm m' hm' => ?_
    obtain ⟨kind, -, rfl⟩ := Option.map_eq_some_iff.1 hm
    obtain ⟨kind', -, rfl⟩ := Option.map_eq_some_iff.1 hm'
    exact hab
  · refine hf.ordered.imp fun {b b'} hbb m hm m' hm' => ?_
    obtain ⟨d, hd, hm⟩ := List.mem_filterMap.1 hm
    obtain ⟨d', hd', hm'⟩ := List.mem_filterMap.1 hm'
    obtain ⟨kind, -, rfl⟩ := Option.map_eq_some_iff.1 hm
    obtain ⟨kind', -, rfl⟩ := Option.map_eq_some_iff.1 hm'
    obtain ⟨line, -, hc, -, hl, -⟩ := definition_line hn hd
    obtain ⟨line', -, hc', -, hl', -⟩ := definition_line hn hd'
    simp only [Block.contains, Bool.and_eq_true, decide_eq_true_eq] at hc hc'
    simp only
    omega

end

/-- The report on a document is exactly its specification: in the order of lines, at most one
entry for each definition and none for other lines; and each definition lies in one content block,
which together with the lines of the document decides whether it is reported and why. -/
theorem misplacedDefinitions_exact (lines : List Text) :
    let doc := classify lines
    let found := misplacedDefinitions doc (contentBlocks lines)
    (found.Pairwise fun a b => a.line < b.line) ∧
      (∀ m ∈ found, ∃ line ∈ doc, m.line = line.number ∧ ∃ label, line.role = .definition label) ∧
      ∀ line ∈ doc, ∀ label, line.role = .definition label →
        ∃ block ∈ contentBlocks lines, block.contains line.number = true ∧
          (∀ other ∈ contentBlocks lines, other.contains line.number = true → other = block) ∧
          ∀ m : Misplaced, m.line = line.number →
            (m ∈ found ↔ m.label = label ∧ m.excerpt = Text.trim line.text ∧
              m.kind.Applies doc block label line.number) := by
  intro doc found
  have hn : Numbered 1 doc := numbered_classify lines
  have hf : BlocksFit 1 lines.length (contentBlocks lines) := blocks_fit lines
  have hc : ProseCovered doc (contentBlocks lines) := fun line hm hfree => exists_block hm hfree
  refine ⟨pairwise_misplacedDefinitions hn hf, ?_, ?_⟩
  · intro m hm
    obtain ⟨block, -, d, hd, kind, -, rfl⟩ := mem_misplacedDefinitions.1 hm
    obtain ⟨line, hml, -, hr, hl, -⟩ := definition_line hn hd
    exact ⟨line, hml, hl, _, hr⟩
  · intro line hm label hr
    obtain ⟨block, hb, hcon⟩ := exists_block hm (by rw [hr]; rfl)
    refine ⟨block, hb, hcon, fun other ho hoc => hf.eq_of_contains ho hb hoc hcon, fun m hml => ?_⟩
    have hexcerpt : excerptAt doc line.number = Text.trim line.text := by
      unfold excerptAt
      rw [hn.getElem? hm]
      rfl
    constructor
    · intro hfound
      obtain ⟨block', hb', d, hd, kind, hk, rfl⟩ := mem_misplacedDefinitions.1 hfound
      obtain ⟨line', hm', hcon', hr', hl', hdb⟩ := definition_line hn hd
      -- the entry comes from the line itself and from the one block around it
      have hsame : line' = line := hn.eq_of_number hm' hm (hl'.symm.trans hml)
      subst hsame
      have hblock : block' = block := hf.eq_of_contains hb' hb hcon' hcon
      subst hblock
      have hlabel : d.label = label := by rw [hr'] at hr; exact LineRole.definition.inj hr
      exact ⟨hlabel, by simp only; rw [hl', hexcerpt],
        (misplacement?_eq_some hn hf hc hb hm hr hcon hlabel hl' hdb kind).1 hk⟩
    · rintro ⟨hlabel, hex, happ⟩
      obtain ⟨d, hd, hdl, hdn, hdb⟩ := mem_definitionsFrom.2 ⟨line, hn.mem_slice.2 ⟨hm, hcon⟩, hr, rfl⟩
      refine mem_misplacedDefinitions.2 ⟨block, hb, d, hd, m.kind,
        (misplacement?_eq_some hn hf hc hb hm hr hcon hdl hdn hdb m.kind).2 happ, ?_⟩
      obtain ⟨number, label', kind, excerpt⟩ := m
      simp only at hml hlabel hex
      rw [hdn, hdl, hexcerpt, hml, hlabel, hex]

end MarkdownStyle
