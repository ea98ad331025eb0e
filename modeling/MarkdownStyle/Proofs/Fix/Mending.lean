/-
What fixing does to a document, line by line. The three rules that offer edits look at different
roles, so no two of them edit one line, and every edit is of the line it was found at: fixing puts
in the place of each line what the one rule that minds it asks for.
-/
import MarkdownStyle.Proofs.Edit
import MarkdownStyle.Proofs.Linter.Builtin
import MarkdownStyle.Proofs.Rule.Site

namespace MarkdownStyle

/-! ## Edits of sites -/

/-- The edit that a check offers at a site. -/
def SiteCheck.edit? (check : SiteCheck) (x : Site) : Option LineEdit :=
  match check x with
  | .ok (some found) => found.edit
  | _ => none

theorem SiteCheck.findings_eq_ok {check : SiteCheck} :
    ∀ {xs : List Site} {found : List Finding}, check.findings xs = .ok found →
      (∀ x ∈ xs, (check x).isOk = true) ∧ found.filterMap (·.edit) = xs.filterMap check.edit?
  | [], found, h => by
    rw [SiteCheck.findings_nil] at h
    cases h
    exact ⟨by simp, rfl⟩
  | x :: xs, found, h => by
    rw [SiteCheck.findings_cons] at h
    cases hx : check x with
    | error e => rw [hx] at h; cases h
    | ok one =>
      cases hs : check.findings xs with
      | error e => rw [hx, hs] at h; cases h
      | ok more =>
        rw [hx, hs] at h
        cases h
        obtain ⟨hok, hedits⟩ := SiteCheck.findings_eq_ok hs
        constructor
        · rintro y (_ | ⟨_, hy⟩)
          · rw [hx]; rfl
          · exact hok y hy
        · rw [List.filterMap_append, hedits, List.filterMap_cons, SiteCheck.edit?, hx]
          rcases one with _ | found
          · rfl
          · cases he : found.edit <;> simp [he]

theorem SiteCheck.findings_isOk {check : SiteCheck} {xs : List Site} :
    (check.findings xs).isOk = true ↔ ∀ x ∈ xs, (check x).isOk = true := by
  constructor
  · intro h
    cases hf : check.findings xs with
    | error e => rw [hf] at h; cases h
    | ok found => exact (SiteCheck.findings_eq_ok hf).1
  · intro h
    induction xs with
    | nil => rfl
    | cons x xs ih =>
      obtain ⟨hx, hxs⟩ := List.forall_mem_cons.1 h
      have ih := ih hxs
      rw [SiteCheck.findings_cons]
      cases hc : check x with
      | error e => rw [hc] at hx; cases hx
      | ok one =>
        cases hs : check.findings xs with
        | error e => rw [hs] at ih; cases ih
        | ok more => rfl

theorem SiteCheck.edit?_eq_some {check : SiteCheck} {x : Site} {edit : LineEdit} :
    check.edit? x = some edit ↔ ∃ found, check x = .ok (some found) ∧ found.edit = some edit := by
  unfold SiteCheck.edit?
  constructor
  · intro h
    split at h
    · rename_i found hf
      exact ⟨found, hf, h⟩
    · cases h
  · rintro ⟨found, hf, he⟩
    rw [hf]
    exact he

/-! ## What the rules find at a site -/

theorem copiesOf_eq_ok {c : Char} {n : Int} {t : Text} (h : copiesOf c n = .ok t) :
    t = List.replicate n.toNat c := by
  unfold copiesOf copyCount at h
  split at h
  · cases h; rfl
  · cases h

/-- The line that the rule on list items asks for. -/
def DashItem.mended (style : Style) (indent : Int) (content : Text) : Text :=
  List.replicate indent.toNat ' ' ++ '-' :: (List.replicate style.gap.toNat ' ' ++ content)

theorem DashItem.layout_eq_ok {style : Style} {indent : Int} {content text : Text}
    (h : layout style indent content = .ok text) : text = mended style indent content := by
  unfold layout at h
  cases hi : copiesOf ' ' indent with
  | error e => rw [hi] at h; cases h
  | ok before =>
    cases hg : copiesOf ' ' style.gap with
    | error e => simp only [bind, Except.bind, hi, hg] at h; cases h
    | ok gap =>
      simp only [bind, Except.bind, hi, hg, pure, Except.pure] at h
      cases h
      rw [copiesOf_eq_ok hi, copiesOf_eq_ok hg]
      simp [mended]

theorem DashItem.check_eq_some {style : Style} {x : Site} {found : Finding}
    (h : DashItem.check style x = .ok (some found)) :
    ∃ item detail indent, x.line.role = .text ∧ ListItem.ofLine? x.line.text = some item ∧
      item.bullet = '-' ∧ fault? style item = .ok (some (detail, indent)) ∧
      found.edit = some (.replace x.line.number (mended style indent item.content)) := by
  unfold DashItem.check finding? at h
  split at h
  · rename_i item hrole hitem
    split at h
    · rename_i hbullet
      cases hfault : fault? style item with
      | error e => rw [hfault] at h; cases h
      | ok fault =>
        rw [hfault] at h
        rcases fault with _ | ⟨detail, indent⟩
        · cases h
        · cases hlayout : layout style indent item.content with
          | error e => simp only [bind, Except.bind, hlayout] at h; cases h
          | ok text =>
            simp only [bind, Except.bind, hlayout, pure, Except.pure] at h
            cases h
            rw [layout_eq_ok hlayout]
            exact ⟨item, detail, indent, hrole, hitem, by simpa using hbullet, hfault, rfl⟩
    · cases h
  · cases h

/-- The line that the fence rule asks for in the place of a fence run. -/
def FenceStyle.mended (length : Int) (run : FenceLine) (opens : Bool) : Text :=
  run.indent ++ (List.replicate length.toNat tilde ++ if opens then run.info else [])

theorem FenceStyle.check_eq_some {length : Int} {x : Site} {found : Finding}
    (h : FenceStyle.check length x = .ok (some found)) :
    ∃ run detail, x.line.role = .fence ∧ FenceLine.ofLine? x.line.text = some run ∧
      fault? length run = some detail ∧
      found.edit = some (.replace x.line.number (mended length run (!x.fence.isOpen))) := by
  unfold FenceStyle.check at h
  split at h
  · rename_i hrole
    unfold finding? at h
    cases hrun : FenceLine.ofLine? x.line.text with
    | none => rw [hrun] at h; cases h
    | some run =>
      cases hfault : fault? length run with
      | none => simp only [hrun, hfault] at h; cases h
      | some detail =>
        simp only [hrun, hfault] at h
        cases hcopies : copiesOf tilde length with
        | error e => rw [hcopies] at h; cases h
        | ok fence =>
          rw [hcopies] at h
          cases h
          rw [copiesOf_eq_ok hcopies]
          exact ⟨run, detail, hrole, rfl, hfault, by simp [mended]⟩
  · cases h

theorem BlankLine.check_eq_some {style : Style} {x : Site} {found : Finding}
    (h : BlankLine.check style x = .ok (some found)) :
    ∃ count level heading, x.blanks = some count ∧ x.line.role = .underlinedText level heading ∧
      (count : Int) < style.required level ∧
      found.edit = some (.insert x.line.number (List.replicate (style.required level - count).toNat [])) := by
  unfold BlankLine.check at h
  split at h
  · cases h
  · rename_i count hcount
    unfold finding? at h
    split at h
    · rename_i level heading hrole
      simp only at h
      split at h
      · rename_i hlt
        unfold copyCount at h
        split at h
        · cases h
          exact ⟨count, level, heading, hcount, hrole, hlt, rfl⟩
        · cases h
      · cases h
    · cases h

/-! ## What passes a check -/

/-- A list item of dashes passes if it is laid out rightly. -/
theorem DashItem.check_eq_none {style : Style} {x : Site} :
    DashItem.check style x = .ok none ↔
      (x.line.role = .text → ∀ item, ListItem.ofLine? x.line.text = some item → item.bullet = '-' →
        fault? style item = .ok none) := by
  unfold DashItem.check finding?
  constructor
  · intro h hr item hitem hb
    rw [hr, hitem] at h
    simp only [hb, beq_self_eq_true, if_true] at h
    cases hf : fault? style item with
    | error e => rw [hf] at h; cases h
    | ok fault =>
      rcases fault with _ | ⟨detail, indent⟩
      · rfl
      · rw [hf] at h
        cases hl : layout style indent item.content with
        | error e => simp only [bind, Except.bind, hl] at h; cases h
        | ok text => simp only [bind, Except.bind, hl] at h; cases h
  · intro h
    split
    · rename_i item hr hitem
      split
      · rename_i hb
        rw [h hr item hitem (by simpa using hb)]
        rfl
      · rfl
    · rfl

/-- A fence passes if it is right. -/
theorem FenceStyle.check_eq_none {length : Int} {x : Site} :
    FenceStyle.check length x = .ok none ↔
      (x.line.role = .fence → ∀ run, FenceLine.ofLine? x.line.text = some run → fault? length run = none) := by
  unfold FenceStyle.check finding?
  constructor
  · intro h hr run hrun
    rw [if_pos hr, hrun] at h
    cases hf : fault? length run with
    | none => rfl
    | some detail =>
      simp only [hf] at h
      cases hc : copiesOf tilde length with
      | error e => rw [hc] at h; cases h
      | ok fence => rw [hc] at h; cases h
  · intro h
    split
    · rename_i hr
      cases hrun : FenceLine.ofLine? x.line.text with
      | none => rfl
      | some run => simp only [h hr run hrun]
    · rfl

/-- The text of a heading passes below enough blank lines, or below nothing. -/
theorem BlankLine.check_eq_none {style : Style} {x : Site} :
    BlankLine.check style x = .ok none ↔
      ∀ count level heading, x.blanks = some count → x.line.role = .underlinedText level heading →
        style.required level ≤ count := by
  unfold BlankLine.check finding?
  constructor
  · intro h count level heading hc hr
    rw [hc, hr] at h
    simp only at h
    by_contra hlt
    rw [if_pos (by omega)] at h
    cases hcopies : copyCount (style.required level - count) with
    | error e => rw [hcopies] at h; cases h
    | ok missing => rw [hcopies] at h; cases h
  · intro h
    split
    · rfl
    · rename_i count hc
      split
      · rename_i level heading hr
        exact if_neg (by have := h count level heading hc hr; omega)
      · rfl

/-! ## Lines that a rule does not look at -/

theorem DashItem.check_of_role {style : Style} {x : Site} (h : x.line.role ≠ .text) :
    DashItem.check style x = .ok none :=
  check_eq_none.2 fun hr => absurd hr h

theorem FenceStyle.check_of_role {length : Int} {x : Site} (h : x.line.role ≠ .fence) :
    FenceStyle.check length x = .ok none :=
  check_eq_none.2 fun hr => absurd hr h

theorem BlankLine.check_of_role {style : Style} {x : Site} (h : x.line.role.isUnderlined = false) :
    BlankLine.check style x = .ok none :=
  check_eq_none.2 fun _ _ _ _ hr => by rw [hr] at h; cases h

/-! ## Mending -/

/-- The checks that offer edits, each with the style that it works for. -/
structure Mending where
  dash : Option DashItem.Style
  fence : Option Int
  blank : Option BlankLine.Style

namespace Mending

variable {m : Mending} {x : Site}

/-- The styles that a configuration accepts. -/
structure Valid (m : Mending) : Prop where
  step : ∀ style ∈ m.dash, 1 ≤ style.step
  gap : ∀ style ∈ m.dash, 1 ≤ style.gap
  length : ∀ n ∈ m.fence, 3 ≤ n

def checks (m : Mending) : List SiteCheck :=
  (m.dash.map DashItem.check).toList ++ (m.fence.map FenceStyle.check).toList ++
    (m.blank.map BlankLine.check).toList

/-- What the checks offer at a site. -/
def edits (m : Mending) (x : Site) : List LineEdit := m.checks.filterMap (·.edit? x)

/-- The lines in the place of the line at a site. -/
def lines (m : Mending) (x : Site) : List Text := editedLine (m.edits x) x.line.text

theorem lines_ne_nil (m : Mending) (x : Site) : m.lines x ≠ [] := editedLine_ne_nil (m.edits x) x.line.text

theorem edits_eq (m : Mending) (x : Site) : m.edits x =
    (m.dash.bind fun style => (DashItem.check style).edit? x).toList ++
      (m.fence.bind fun length => (FenceStyle.check length).edit? x).toList ++
      (m.blank.bind fun style => (BlankLine.check style).edit? x).toList := by
  have hone : ∀ {α : Type} (check : α → SiteCheck) (style : Option α),
      (style.map check).toList.filterMap (·.edit? x) = (style.bind fun s => (check s).edit? x).toList := by
    intro α check style
    rcases style with _ | s
    · rfl
    · cases h : (check s).edit? x <;> simp [h]
  unfold edits checks
  rw [List.filterMap_append, List.filterMap_append, hone, hone, hone]

/-- Which rule minds a line, and what it asks for. -/
inductive Minds (m : Mending) (x : Site) : List LineEdit → Prop
  | none : Minds m x []
  | dash {style : DashItem.Style} {item : ListItem} {detail : String} {indent : Int} :
    m.dash = some style → x.line.role = .text → ListItem.ofLine? x.line.text = some item →
      item.bullet = '-' → DashItem.fault? style item = .ok (some (detail, indent)) →
      Minds m x [.replace x.line.number (DashItem.mended style indent item.content)]
  | fence {length : Int} {run : FenceLine} {detail : String} :
    m.fence = some length → x.line.role = .fence → FenceLine.ofLine? x.line.text = some run →
      FenceStyle.fault? length run = some detail →
      Minds m x [.replace x.line.number (FenceStyle.mended length run (!x.fence.isOpen))]
  | blank {style : BlankLine.Style} {count level : Nat} {heading : Text} :
    m.blank = some style → x.blanks = some count → x.line.role = .underlinedText level heading →
      (count : Int) < style.required level →
      Minds m x [.insert x.line.number (List.replicate (style.required level - count).toNat [])]

theorem minds_dash (m : Mending) (x : Site) :
    (m.dash.bind fun style => (DashItem.check style).edit? x) = Option.none ∨
      ∃ edit, (m.dash.bind fun style => (DashItem.check style).edit? x) = some edit ∧
        x.line.role = .text ∧ Minds m x [edit] := by
  cases h : m.dash.bind fun style => (DashItem.check style).edit? x with
  | none => exact .inl rfl
  | some edit =>
    obtain ⟨style, hstyle, he⟩ := Option.bind_eq_some_iff.1 h
    obtain ⟨found, hf, hedit⟩ := SiteCheck.edit?_eq_some.1 he
    obtain ⟨item, detail, indent, hrole, hitem, hb, hfault, hfound⟩ := DashItem.check_eq_some hf
    rw [hfound] at hedit
    cases hedit
    exact .inr ⟨_, rfl, hrole, .dash hstyle hrole hitem hb hfault⟩

theorem minds_fence (m : Mending) (x : Site) :
    (m.fence.bind fun length => (FenceStyle.check length).edit? x) = Option.none ∨
      ∃ edit, (m.fence.bind fun length => (FenceStyle.check length).edit? x) = some edit ∧
        x.line.role = .fence ∧ Minds m x [edit] := by
  cases h : m.fence.bind fun length => (FenceStyle.check length).edit? x with
  | none => exact .inl rfl
  | some edit =>
    obtain ⟨length, hlength, he⟩ := Option.bind_eq_some_iff.1 h
    obtain ⟨found, hf, hedit⟩ := SiteCheck.edit?_eq_some.1 he
    obtain ⟨run, detail, hrole, hrun, hfault, hfound⟩ := FenceStyle.check_eq_some hf
    rw [hfound] at hedit
    cases hedit
    exact .inr ⟨_, rfl, hrole, .fence hlength hrole hrun hfault⟩

theorem minds_blank (m : Mending) (x : Site) :
    (m.blank.bind fun style => (BlankLine.check style).edit? x) = Option.none ∨
      ∃ edit, (m.blank.bind fun style => (BlankLine.check style).edit? x) = some edit ∧
        x.line.role.isUnderlined = true ∧ Minds m x [edit] := by
  cases h : m.blank.bind fun style => (BlankLine.check style).edit? x with
  | none => exact .inl rfl
  | some edit =>
    obtain ⟨style, hstyle, he⟩ := Option.bind_eq_some_iff.1 h
    obtain ⟨found, hf, hedit⟩ := SiteCheck.edit?_eq_some.1 he
    obtain ⟨count, level, heading, hcount, hrole, hlt, hfound⟩ := BlankLine.check_eq_some hf
    rw [hfound] at hedit
    cases hedit
    exact .inr ⟨_, rfl, by rw [hrole]; rfl, .blank hstyle hcount hrole hlt⟩

/-- At most one rule offers an edit, since each minds a role of its own. -/
theorem minds_edits (m : Mending) (x : Site) : Minds m x (m.edits x) := by
  rw [edits_eq]
  rcases m.minds_dash x with hd | ⟨edit, hd, hrd, h⟩ <;> rcases m.minds_fence x with hf | ⟨edit', hf, hrf, h'⟩ <;>
    rcases m.minds_blank x with hb | ⟨edit'', hb, hrb, h''⟩ <;> rw [hd, hf, hb]
  · exact .none
  · exact h''
  · exact h'
  -- two rules at once would need two roles of one line
  · rw [hrf] at hrb; cases hrb
  · exact h
  · rw [hrd] at hrb; cases hrb
  · rw [hrd] at hrf; cases hrf
  · rw [hrd] at hrf; cases hrf

theorem Minds.line_eq {edits : List LineEdit} (h : Minds m x edits) : ∀ e ∈ edits, e.line = x.line.number := by
  cases h with
  | none => simp
  | _ => intro e he; rw [List.mem_singleton.1 he]; rfl

/-- No edit, or one. -/
theorem Minds.length_le {edits : List LineEdit} (h : Minds m x edits) : edits.length ≤ 1 := by
  cases h <;> simp

/-- The checks can be carried out at the site. -/
def RunsAt (m : Mending) (x : Site) : Prop := ∀ check ∈ m.checks, (check x).isOk = true

theorem dash_mem_checks {style : DashItem.Style} (h : m.dash = some style) : DashItem.check style ∈ m.checks := by
  simp [checks, h]

theorem fence_mem_checks {n : Int} (h : m.fence = some n) : FenceStyle.check n ∈ m.checks := by
  simp [checks, h]

theorem blank_mem_checks {style : BlankLine.Style} (h : m.blank = some style) :
    BlankLine.check style ∈ m.checks := by
  simp [checks, h]

/-- The site passes all checks. -/
structure Passes (m : Mending) (x : Site) : Prop where
  dash : ∀ style, m.dash = some style → DashItem.check style x = .ok Option.none
  fence : ∀ n, m.fence = some n → FenceStyle.check n x = .ok Option.none
  blank : ∀ style, m.blank = some style → BlankLine.check style x = .ok Option.none

/-- Every finding comes with an edit, so where nothing is offered nothing is found. -/
theorem passes_of_edits (hruns : m.RunsAt x) (hedits : m.edits x = []) : m.Passes x := by
  have hnone : ∀ {check : SiteCheck}, check ∈ m.checks →
      (∀ found, check x = .ok (some found) → found.edit ≠ Option.none) → check x = .ok Option.none := by
    intro check hc hoffers
    have hok := hruns check hc
    cases hx : check x with
    | error e => rw [hx] at hok; cases hok
    | ok found =>
      rcases found with _ | found
      · rfl
      · obtain ⟨edit, hedit⟩ := Option.ne_none_iff_exists'.1 (hoffers found hx)
        have := List.filterMap_eq_nil_iff.1 hedits check hc
        rw [SiteCheck.edit?_eq_some.2 ⟨found, hx, hedit⟩] at this
        cases this
  refine ⟨fun style h => ?_, fun n h => ?_, fun style h => ?_⟩
  · refine hnone (dash_mem_checks h) fun found hf => ?_
    obtain ⟨_, _, _, -, -, -, -, he⟩ := DashItem.check_eq_some hf
    simp [he]
  · refine hnone (fence_mem_checks h) fun found hf => ?_
    obtain ⟨_, _, -, -, -, he⟩ := FenceStyle.check_eq_some hf
    simp [he]
  · refine hnone (blank_mem_checks h) fun found hf => ?_
    obtain ⟨_, _, _, -, -, -, he⟩ := BlankLine.check_eq_some hf
    simp [he]

end Mending

end MarkdownStyle
