/-
What a rule asks for is what it accepts. A list item that is laid out anew is read back with its new
indent and gap, and those are right; a fence that is written anew is a fence of tildes of the right
length, unless its info string starts with further tildes.
-/
import MarkdownStyle.Proofs.Decimal.Rounding
import MarkdownStyle.Proofs.Fix.Mending
import MarkdownStyle.Proofs.Line.Reading

namespace MarkdownStyle

/-! ## List items -/

/-- The nearest right indent is one plus a number of steps. -/
theorem closestIndent?_right {indent step : Int} (hi : 1 ≤ indent) (hs : 1 ≤ step) :
    ∃ steps : Int, 0 ≤ steps ∧ closestIndent? indent step = some (1 + steps * step) := by
  have hnum : 0 ≤ (indent - 1) * step.sign := by
    rw [Int.sign_eq_one_of_pos (by omega)]
    omega
  refine ⟨_, BinaryFraction.truncate_nonneg (BinaryFraction.addHalf_nonneg
    (BinaryFraction.ofQuotient_nonneg hnum step.natAbs)), ?_⟩
  unfold closestIndent?
  rw [if_neg (by omega), if_neg (by omega)]

namespace DashItem

variable {style : Style} {item : ListItem} {detail : String} {indent : Int}

/-- The indent that is asked for is right. -/
theorem indent_of_fault? (hs : 1 ≤ style.step) (h : fault? style item = .ok (some (detail, indent))) :
    1 ≤ indent ∧ Int.fmod (indent - 1) style.step = 0 := by
  unfold fault? fault?.wrongIndent at h
  split at h
  · cases h
    exact ⟨le_refl 1, Int.zero_fmod _⟩
  · rename_i hi
    split at h
    · cases h
    · split at h
      · cases h
        obtain ⟨steps, hsteps, hclosest⟩ := @closestIndent?_right item.indent style.step (by omega) hs
        rw [hclosest, Option.getD_some]
        refine ⟨by nlinarith, ?_⟩
        rw [add_sub_cancel_left, Int.mul_fmod_left]
      · rename_i hf
        split at h
        · cases h
          exact ⟨by omega, by simpa using hf⟩
        · cases h

/-- An item with a right indent and the gap of the style is right. -/
theorem fault?_right {content : Text} (hs : 1 ≤ style.step) (hg : 1 ≤ style.gap) (hi : 1 ≤ indent)
    (hf : Int.fmod (indent - 1) style.step = 0) :
    fault? style ⟨indent.toNat, '-', style.gap.toNat, content⟩ = .ok none := by
  have hindent : ((indent.toNat : Nat) : Int) = indent := Int.toNat_of_nonneg (by omega)
  have hgap : ((style.gap.toNat : Nat) : Int) = style.gap := Int.toNat_of_nonneg (by omega)
  unfold fault?
  simp only [hindent, hgap]
  rw [if_neg (by omega), if_neg (by omega), if_neg (by simp [hf]), if_neg (by simp)]
  rfl

theorem ofLine?_mended (hg : 1 ≤ style.gap) {content : Text} (hc : ∀ c ∈ content.head?, Text.isBlank c = false) :
    ListItem.ofLine? (mended style indent content) = some ⟨indent.toNat, '-', style.gap.toNat, content⟩ := by
  refine ListItem.ofLine?_eq_some.2 ⟨List.replicate indent.toNat ' ', List.replicate style.gap.toNat ' ', rfl,
    List.length_replicate, List.length_replicate, ?_, fun _ => isBlank_of_mem_spaces,
    fun _ => isBlank_of_mem_spaces, hc, .inl rfl⟩
  rw [ne_eq, List.replicate_eq_nil_iff]
  omega

/-- A list item that is laid out anew is right. -/
theorem fault?_mended (hs : 1 ≤ style.step) (hg : 1 ≤ style.gap) {line : Text}
    (hitem : ListItem.ofLine? line = some item) (h : fault? style item = .ok (some (detail, indent))) :
    ∃ new, ListItem.ofLine? (mended style indent item.content) = some new ∧ fault? style new = .ok none := by
  obtain ⟨-, -, -, -, -, -, -, -, hc, -⟩ := ListItem.ofLine?_eq_some.1 hitem
  obtain ⟨hi, hf⟩ := indent_of_fault? hs h
  exact ⟨_, ofLine?_mended hg hc, fault?_right hs hg hi hf⟩

/-- A list item that is laid out anew keeps everything but its whitespace. -/
theorem filter_mended {p : Char → Bool} (hp : ∀ c, Text.isBlank c = true → p c = false) {line : Text}
    (hitem : ListItem.ofLine? line = some item) (hb : item.bullet = '-') (style : Style) (indent : Int) :
    (mended style indent item.content).filter p = line.filter p := by
  obtain ⟨before, gap, rfl, -, -, -, hbefore, hgap, -⟩ := ListItem.ofLine?_eq_some.1 hitem
  have hnone : ∀ {t : Text}, (∀ c ∈ t, Text.isBlank c = true) → t.filter p = [] := fun ht =>
    List.filter_eq_nil_iff.2 fun c hc => by simp [hp c (ht c hc)]
  have hspaces : ∀ n, (List.replicate n ' ').filter p = [] := fun n => hnone fun _ => isBlank_of_mem_spaces
  unfold mended
  rw [hb]
  simp only [List.filter_append, List.filter_cons, hnone hbefore, hnone hgap, hspaces]

theorem trimLeft_mended (style : Style) (indent : Int) (content : Text) :
    Text.trimLeft (mended style indent content) = '-' :: (List.replicate style.gap.toNat ' ' ++ content) := by
  unfold Text.trimLeft mended
  rw [List.dropWhile_append_of_pos fun _ => isBlank_of_mem_spaces, List.dropWhile_cons_of_neg (by decide)]

/-- A list item with a fault is laid out in another way. -/
theorem mended_ne (hs : 1 ≤ style.step) (hg : 1 ≤ style.gap) {line : Text}
    (hitem : ListItem.ofLine? line = some item) (h : fault? style item = .ok (some (detail, indent))) :
    mended style indent item.content ≠ line := by
  intro hsame
  obtain ⟨new, hnew, hright⟩ := fault?_mended hs hg hitem h
  rw [hsame, hitem] at hnew
  cases hnew
  rw [hright] at h
  cases h

end DashItem

/-! ## Fences -/

namespace FenceStyle

variable {length : Int} {run : FenceLine}

theorem fault?_eq_none (hm : run.marker = backtick ∨ run.marker = tilde) :
    fault? length run = none ↔ run.marker = tilde ∧ (run.length : Int) = length := by
  have hne : tilde ≠ backtick := by decide
  unfold fault?
  rcases hm with h | h
  · rw [h]
    simp only [beq_self_eq_true, if_true, ne_eq]
    constructor
    · intro hnone
      split at hnone <;> cases hnone
    · rintro ⟨ht, -⟩
      exact absurd ht.symm hne
  · rw [h]
    simp [hne]

/-- The fence run that is asked for. -/
def right (length : Int) (run : FenceLine) (opens : Bool) : FenceLine :=
  ⟨run.indent, tilde, length.toNat, if opens then run.info else []⟩

theorem proper_right (hl : 3 ≤ length) (h : run.Proper) {opens : Bool}
    (hinfo : opens = true → run.info.head? ≠ some tilde) : (right length run opens).Proper where
  indent := h.indent
  marker := .inr rfl
  length := by
    show 3 ≤ length.toNat
    omega
  info := by
    intro c hc
    cases opens with
    | false => cases hc
    | true =>
      rintro rfl
      exact hinfo rfl hc

/-- A fence that is written anew is read back as what is asked for. -/
theorem ofLine?_mended (hl : 3 ≤ length) (h : run.Proper) {opens : Bool}
    (hinfo : opens = true → run.info.head? ≠ some tilde) :
    FenceLine.ofLine? (mended length run opens) = some (right length run opens) :=
  FenceLine.ofLine?_written (proper_right hl h hinfo)

theorem fault?_right (hl : 3 ≤ length) (run : FenceLine) (opens : Bool) :
    fault? length (right length run opens) = none :=
  (fault?_eq_none (.inr rfl)).2 ⟨rfl, Int.toNat_of_nonneg (by omega)⟩

/-- The tildes that an info string starts with go to the run that is written in front of it. -/
theorem ofLine?_mended_opener (hl : 3 ≤ length) (h : run.Proper) :
    FenceLine.ofLine? (mended length run true) =
      some ⟨run.indent, tilde, length.toNat + (run.info.takeWhile (· == tilde)).length,
        run.info.dropWhile (· == tilde)⟩ := by
  cases hspan : Text.span (· == tilde) run.info with | mk front back =>
  obtain ⟨hback, hsame, hrest⟩ := Text.span_eq_iff.1 hspan
  have hfront : front = List.replicate front.length tilde :=
    List.eq_replicate_of_mem fun c hc => by simpa using hsame c hc
  obtain ⟨htake, hdrop⟩ := Prod.mk.inj hspan
  rw [htake, hdrop]
  have hproper : FenceLine.Proper ⟨run.indent, tilde, length.toNat + front.length, back⟩ :=
    ⟨h.indent, .inr rfl, by show 3 ≤ length.toNat + front.length; omega, fun c hc => by simpa using hrest c hc⟩
  rw [← FenceLine.ofLine?_written hproper]
  show FenceLine.ofLine? (run.indent ++ (List.replicate length.toNat tilde ++ run.info)) =
    FenceLine.ofLine? (run.indent ++ (List.replicate (length.toNat + front.length) tilde ++ back))
  rw [hback, List.replicate_add, ← hfront, List.append_assoc]

/-- Tildes in front of an info string make the run in front of them longer. -/
theorem ofLine?_mended_of_tilde (hl : 3 ≤ length) (h : run.Proper) (hinfo : run.info.head? = some tilde) :
    ∃ long, FenceLine.ofLine? (mended length run true) = some long ∧ long.marker = tilde ∧
      fault? length long ≠ none := by
  refine ⟨_, ofLine?_mended_opener hl h, rfl, fun hnone => ?_⟩
  have hlen : ((length.toNat + (run.info.takeWhile (· == tilde)).length : Nat) : Int) = length :=
    ((fault?_eq_none (.inr rfl)).1 hnone).2
  obtain ⟨rest, hrest⟩ : ∃ rest, run.info = tilde :: rest := List.head?_eq_some_iff.1 hinfo
  rw [hrest, List.takeWhile_cons_of_pos (by simp), List.length_cons] at hlen
  omega

/-- A fence that is written anew is a run of tildes in any case. -/
theorem exists_ofLine?_mended (hl : 3 ≤ length) (h : run.Proper) (opens : Bool) :
    ∃ new, FenceLine.ofLine? (mended length run opens) = some new ∧ new.marker = tilde := by
  by_cases hinfo : opens = true → run.info.head? ≠ some tilde
  · exact ⟨_, ofLine?_mended hl h hinfo, rfl⟩
  · rw [Classical.not_imp, not_not] at hinfo
    obtain ⟨rfl, hinfo⟩ := hinfo
    obtain ⟨long, hlong, hmarker, -⟩ := ofLine?_mended_of_tilde hl h hinfo
    exact ⟨long, hlong, hmarker⟩

/-- A fence with a fault is written in another way. -/
theorem mended_ne (hl : 3 ≤ length) {line : Text} (hrun : FenceLine.ofLine? line = some run) {detail : String}
    (h : fault? length run = some detail) (opens : Bool) : mended length run opens ≠ line := by
  intro hsame
  have hproper := (FenceLine.ofLine?_eq_some.1 hrun).1
  by_cases hinfo : opens = true → run.info.head? ≠ some tilde
  · have hnew := ofLine?_mended hl hproper hinfo
    rw [hsame, hrun, Option.some.injEq] at hnew
    rw [hnew, fault?_right hl] at h
    cases h
  · -- the info string starts with a tilde, so the run was one of backticks
    rw [Classical.not_imp, not_not] at hinfo
    obtain ⟨rfl, hinfo⟩ := hinfo
    obtain ⟨long, hlong, hmarker, -⟩ := ofLine?_mended_of_tilde hl hproper hinfo
    rw [hsame, hrun] at hlong
    cases hlong
    exact hproper.info tilde hinfo hmarker.symm

end FenceStyle

end MarkdownStyle
