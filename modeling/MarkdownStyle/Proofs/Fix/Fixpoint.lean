/-
Fixing twice. On the fixed text the same checks can be carried out as on the text itself, and they
find nothing more, as long as no line of code closes a mended block and every mended fence has the
right length. The second can fail: an info string that starts with tildes makes the new fence in
front of it too long, and the next fix gives it another length.
-/
import MarkdownStyle.Proofs.Fix.Change
import MarkdownStyle.Proofs.Fix.Replay

namespace MarkdownStyle

/-! ## Checks that can be carried out -/

/-- Whether the rule on list items can lay out a line depends on its role and its text alone. -/
theorem DashItem.check_isOk_congr {style : Style} {x y : Site} (hr : y.line.role = x.line.role)
    (ht : y.line.text = x.line.text) : (check style y).isOk = (check style x).isOk := by
  unfold check finding?
  rw [hr, ht]
  split
  · rename_i item _ _
    split
    · cases fault? style item with
      | error e => rfl
      | ok fault =>
        rcases fault with _ | ⟨detail, indent⟩
        · rfl
        · show Except.isOk (layout style indent item.content >>= _) =
            Except.isOk (layout style indent item.content >>= _)
          cases layout style indent item.content <;> rfl
    · rfl
  · rfl

theorem DashItem.role_of_check_fails {style : Style} {x : Site} (h : (check style x).isOk = false) :
    x.line.role = .text := by
  unfold check finding? at h
  split at h
  · assumption
  · cases h

theorem copyCount_isOk {n : Int} (hl : -countLimit ≤ n) (hr : n < countLimit) : copyCount n = .ok n.toNat :=
  if_pos (by simp [hl, hr])

theorem FenceStyle.check_isOk {length : Int} (hl : 3 ≤ length) (hr : length < countLimit) (x : Site) :
    (check length x).isOk = true := by
  have hcopies : copiesOf tilde length = .ok (List.replicate length.toNat tilde) := by
    rw [copiesOf, copyCount_isOk (by unfold countLimit; omega) hr]
    rfl
  unfold check finding?
  split
  · split
    · rfl
    · split
      · rfl
      · rw [hcopies]
        rfl
  · rfl

theorem BlankLine.check_isOk {style : Style} (h : ∀ level, style.required level < countLimit) (x : Site) :
    (check style x).isOk = true := by
  unfold check finding?
  split
  · rfl
  · rename_i count _
    split
    · rename_i level heading _
      simp only
      split
      · have := h level
        rw [copyCount_isOk (by unfold countLimit; omega) (by omega)]
        rfl
      · rfl
    · rfl

namespace Mending

variable {m : Mending} {xs ys : List Site}

/-- Styles that never ask for more copies than a count can say. -/
structure Limited (m : Mending) : Prop where
  fence : ∀ n ∈ m.fence, n < countLimit
  blank : ∀ style ∈ m.blank, ∀ level, style.required level < countLimit

theorem feasible_fence (hm : m.Valid) (hl : m.Limited) (xs : List Site) : (m.feasible xs).fence = m.fence := by
  unfold feasible
  cases h : m.fence with
  | none => rfl
  | some n =>
    have hruns : (FenceStyle.check n).runs xs = true :=
      SiteCheck.findings_isOk.2 fun x _ => FenceStyle.check_isOk (hm.length n h) (hl.fence n h) x
    rw [Option.filter_some, if_pos hruns]

theorem feasible_blank (hl : m.Limited) (xs : List Site) : (m.feasible xs).blank = m.blank := by
  unfold feasible
  cases h : m.blank with
  | none => rfl
  | some style =>
    have hruns : (BlankLine.check style).runs xs = true :=
      SiteCheck.findings_isOk.2 fun x _ => BlankLine.check_isOk (hl.blank style h) x
    rw [Option.filter_some, if_pos hruns]

theorem runsAt_feasible (m : Mending) (xs : List Site) : ∀ x ∈ xs, (m.feasible xs).RunsAt x := by
  intro x hx check hc
  have hruns : check.runs xs = true := by
    simp only [checks, feasible, List.mem_append, Option.mem_toList, Option.map_eq_some_iff,
      Option.filter_eq_some_iff] at hc
    rcases hc with (⟨style, ⟨-, h⟩, rfl⟩ | ⟨n, ⟨-, h⟩, rfl⟩) | ⟨style, ⟨-, h⟩, rfl⟩
    · exact h
    · exact h
    · exact h
  exact SiteCheck.findings_isOk.1 hruns x hx

/-- What passes is offered nothing. -/
theorem edits_of_passes {x : Site} (h : m.Passes x) : m.edits x = [] := by
  have hnone : ∀ {check : SiteCheck}, check x = .ok none → check.edit? x = none := by
    intro check hc
    rw [SiteCheck.edit?, hc]
  rw [edits_eq]
  simp only [List.append_eq_nil_iff, Option.toList_eq_nil_iff, Option.bind_eq_none_iff]
  exact ⟨⟨fun style hs => hnone (h.dash style hs), fun n hn => hnone (h.fence n hn)⟩,
    fun style hs => hnone (h.blank style hs)⟩

/-- Without the rule on list items nothing is offered for text. -/
theorem edits_of_text {x : Site} (hd : m.dash = none) (hr : x.line.role = .text) : m.edits x = [] := by
  have hminds := m.minds_edits x
  generalize m.edits x = edits at hminds
  cases hminds with
  | none => rfl
  | dash hstyle => rw [hd] at hstyle; cases hstyle
  | fence _ hr' => rw [hr] at hr'; cases hr'
  | blank _ _ hr' => rw [hr] at hr'; cases hr'

/-- The rule on list items can be carried out again if it could, for all it laid out passes; it
fails again if it failed, for the line that it failed on is still there. -/
theorem feasible_dash_replayed (h : (m.feasible xs).Replays xs ys) (hpass : ∀ y ∈ ys, (m.feasible xs).Passes y) :
    (m.feasible ys).dash = (m.feasible xs).dash := by
  cases hd : m.dash with
  | none =>
    show m.dash.filter _ = m.dash.filter _
    rw [hd]
    rfl
  | some style =>
    have hfeasible : ∀ zs, (m.feasible zs).dash = if (DashItem.check style).runs zs then some style else none := by
      intro zs
      show m.dash.filter _ = _
      rw [hd, Option.filter_some]
    rw [hfeasible ys, hfeasible xs]
    cases hruns : (DashItem.check style).runs xs with
    | true =>
      have hs := hfeasible xs
      rw [if_pos hruns] at hs
      have hagain : (DashItem.check style).runs ys = true :=
        SiteCheck.findings_isOk.2 fun y hy => by rw [(hpass y hy).dash style hs]; rfl
      rw [hagain]
    | false =>
      have hs := hfeasible xs
      rw [if_neg (by simp [hruns])] at hs
      -- without the rule nothing is offered for the text that it fails on
      obtain ⟨x, hx, hfails⟩ : ∃ x ∈ xs, (DashItem.check style x).isOk = false := by
        by_contra hall
        push Not at hall
        have hok := SiteCheck.findings_isOk.2 fun x hx => by simpa using hall x hx
        rw [SiteCheck.runs, hok] at hruns
        cases hruns
      obtain ⟨y, hy, hr, ht⟩ := h.exists_unchanged hx (edits_of_text hs (DashItem.role_of_check_fails hfails))
      have hagain : ¬ (DashItem.check style).runs ys = true := by
        intro hruns
        have hok := SiteCheck.findings_isOk.1 hruns y hy
        rw [DashItem.check_isOk_congr hr ht, hfails] at hok
        cases hok
      rw [if_neg hagain, if_neg Bool.false_ne_true]

/-- If the mended document passes, the same checks can be carried out on it. -/
theorem feasible_replayed (hm : m.Valid) (hl : m.Limited) (h : (m.feasible xs).Replays xs ys)
    (hpass : ∀ y ∈ ys, (m.feasible xs).Passes y) : m.feasible ys = m.feasible xs := by
  have hdash := feasible_dash_replayed h hpass
  have hfence := (feasible_fence hm hl ys).trans (feasible_fence hm hl xs).symm
  have hblank := (feasible_blank hl ys).trans (feasible_blank hl xs).symm
  generalize m.feasible ys = again at *
  generalize m.feasible xs = before at *
  obtain ⟨dash, fence, blank⟩ := again
  show Mending.mk dash fence blank = _
  rw [show dash = before.dash from hdash, show fence = before.fence from hfence,
    show blank = before.blank from hblank]

end Mending

/-! ## Fixing twice -/

namespace Linter

/-- All integer options stay below the limit of counts. -/
def Limited (l : Linter) : Prop :=
  ∀ entry ∈ l.rules, ∀ option ∈ entry.2.options, ∀ n ∈ option.2.integer?, n < countLimit

instance (l : Linter) : Decidable l.Limited :=
  inferInstanceAs (Decidable (∀ entry ∈ l.rules, ∀ option ∈ entry.2.options, ∀ n ∈ option.2.integer?,
    n < countLimit))

variable {config : Mapping} {l : Linter}

theorem Limited.int_lt (h : l.Limited) {rule : Rule} {setting : Setting} (hm : (rule, setting) ∈ l.rules)
    {key : String} {minimum : Int} (hat : setting.options.AtLeast key minimum) (default : Int) :
    setting.options.int key default < countLimit := by
  obtain ⟨entry, he, hn⟩ := Mapping.mem_of_get? (hat.int_eq default).1
  exact h _ hm entry he _ (by rw [hn]; rfl)

theorem mending_limited (h : Linter.ofConfig .builtin config = .ok l) (hlim : l.Limited) : l.mending.Limited := by
  obtain ⟨dash, fence, place, blank, case, hrules⟩ := Linter.rules_of_builtin (Linter.ofConfig_eq_ok h).1
  rw [Linter.mending_eq hrules]
  constructor
  · intro n hn
    obtain ⟨o, ho, rfl⟩ := Option.map_eq_some_iff.1 hn
    rw [← Setting.eq_of_options? ho]
    have hm : (fenceRule, fence) ∈ l.rules := by simp [hrules]
    have hat : fence.options.AtLeast "fence_length" 3 := options_atLeast h hm rfl rfl (by decide)
    exact hlim.int_lt hm hat 4
  · intro style hs level
    obtain ⟨o, ho, rfl⟩ := Option.map_eq_some_iff.1 hs
    rw [← Setting.eq_of_options? ho]
    have hm : (blankLineRule, blank) ∈ l.rules := by simp [hrules]
    have hfirst : blank.options.AtLeast "lines_before_h1" 0 := options_atLeast h hm rfl rfl (by decide)
    have hsecond : blank.options.AtLeast "lines_before_h2" 0 := options_atLeast h hm rfl rfl (by decide)
    unfold BlankLine.Style.required
    split
    · exact hlim.int_lt hm hfirst 1
    · exact hlim.int_lt hm hsecond 2

/-- Fixing changes a text exactly if an issue of it is fixable. -/
theorem fix_eq_self_iff (h : Linter.ofConfig .builtin config = .ok l) (t : Text) (path : String) :
    (l.fix t path).1 = t ↔ ∀ i ∈ (l.lint t path).issues, i.isFixable = false :=
  (fix_eq_self_iff_quiet h t path).trans (l.quiet_iff (Linter.ofConfig_eq_ok h).1 t path)

/-- If no line of code closes a mended block, nothing is offered for the mended lines exactly if each
mended fence has the right length. -/
theorem quiet_mendedLines_iff (h : Linter.ofConfig .builtin config = .ok l) (hlim : l.Limited) {t : Text}
    (hcode : ∀ x ∈ sites (Text.lines t), l.mending.KeepsCode x) :
    (l.mending.feasible (sites (l.mendedLines t))).Quiet (sites (l.mendedLines t)) ↔
      ∀ x ∈ sites (Text.lines t), l.mending.KeepsLength x := by
  have hm := mending_valid h
  have hl := mending_limited h hlim
  have hvalid := mendingOf_valid h t
  have hruns : ∀ x ∈ sites (Text.lines t), (l.mendingOf t).RunsAt x := Mending.runsAt_feasible _ _
  have hfence : (l.mendingOf t).fence = l.mending.fence := Mending.feasible_fence hm hl _
  have hagrees := LineScan.Agrees.start (l.mendingOf t).fence (Text.lines t)
  have hcode : ∀ x ∈ sites (Text.lines t), (l.mendingOf t).KeepsCode x := by
    unfold Mending.KeepsCode
    rw [hfence]
    exact hcode
  have hlength : (∀ x ∈ sites (Text.lines t), l.mending.KeepsLength x) ↔
      ∀ x ∈ sites (Text.lines t), (l.mendingOf t).KeepsLength x := by
    unfold Mending.KeepsLength
    rw [hfence]
  rw [hlength]
  constructor
  · -- up to the first fence that gets too long the two passes agree, and that fence is found
    intro hq
    by_contra hbad
    push Not at hbad
    obtain ⟨n, hn, y, hy, hcheck⟩ :=
      @Mending.exists_check_ne_none (l.mendingOf t) hvalid (Text.lines t) _ _ 1 1 none hagrees hruns hcode hbad
    have hn' : (l.mending.feasible (sites (l.mendedLines t))).fence = some n := by
      rw [Mending.feasible_fence hm hl, ← hfence, hn]
    refine hcheck ?_
    exact (Mending.passes_of_edits (Mending.runsAt_feasible _ _ y hy) (hq y hy)).fence n hn'
  · intro hlength
    have hreplays : (l.mendingOf t).Replays (sites (Text.lines t)) (sites (l.mendedLines t)) :=
      @Mending.replays_sitesOn (l.mendingOf t) hvalid (Text.lines t) _ _ 1 1 none hagrees hruns hcode hlength
    have hpass := hreplays.passes hvalid hruns hlength
    rw [Mending.feasible_replayed hm hl hreplays hpass]
    exact fun y hy => Mending.edits_of_passes (hpass y hy)

end Linter

/-- Fixing a fixed text changes it exactly if it left a fixable issue. If no line of code closes a
mended block, it left none exactly if no fence that it wrote anew has an info string that starts
with tildes. -/
theorem fix_fix_eq_iff {config : Mapping} {l : Linter} (h : Linter.ofConfig .builtin config = .ok l)
    (hlim : l.Limited) (t : Text) (path : String) :
    let once := (l.fix t path).1
    ((l.fix once path).1 = once ↔ ∀ i ∈ (l.lint once path).issues, i.isFixable = false) ∧
      ((∀ x ∈ sites (Text.lines t), l.mending.KeepsCode x) →
        ((l.fix once path).1 = once ↔ ∀ x ∈ sites (Text.lines t), l.mending.KeepsLength x)) := by
  intro once
  refine ⟨Linter.fix_eq_self_iff h once path, fun hcode => ?_⟩
  rw [Linter.fix_eq_self_iff_quiet h, ← Linter.quiet_mendedLines_iff h hlim hcode, Linter.mendingOf,
    Linter.lines_fix h t path]

/-- Fences and an item are mended here, and once is enough. -/
theorem fix_fix_eq_of_keeps :
    Linter.ofConfig .builtin [] = .ok .house ∧ Linter.house.Limited ∧
      let once := (Linter.house.fix "```c\n~~~\n```\n- a\nb\n=\n".toList "").1
      (Linter.house.fix once "").1 = once :=
  ⟨Linter.ofConfig_nil, by decide,
    ((fix_fix_eq_iff Linter.ofConfig_nil (by decide) _ _).2 (by decide)).2 (by decide)⟩

/-- Once is not enough: behind a new fence of four tildes stands the fifth of the info string. -/
theorem fix_fix_ne : ∃ l, Linter.ofConfig .builtin [] = .ok l ∧ l.Limited ∧
    let once := (l.fix "```~x\n```\n".toList "").1
    (l.fix once "").1 ≠ once := by
  refine ⟨.house, Linter.ofConfig_nil, by decide, ?_⟩
  rw [ne_eq, Linter.fix_eq_self_iff_quiet Linter.ofConfig_nil, Linter.mendingOf,
    Linter.lines_fix Linter.ofConfig_nil]
  decide

/-- Nor if a line of code closes a mended block, and what follows it is code no longer. -/
theorem fix_fix_ne_of_closing_code :
    let t := "````\n~~~~\n- a\n````\n".toList
    let once := (Linter.house.fix t "").1
    (∀ x ∈ sites (Text.lines t), Linter.house.mending.KeepsLength x) ∧ (Linter.house.fix once "").1 ≠ once := by
  refine ⟨by decide, ?_⟩
  rw [ne_eq, Linter.fix_eq_self_iff_quiet Linter.ofConfig_nil, Linter.mendingOf,
    Linter.lines_fix Linter.ofConfig_nil]
  decide

end MarkdownStyle
