/-
The sites of a mended document. Every site of the document is replayed: the lines in its place are
the inserted blank ones and then the line itself, which keeps its role, except that a list item of
dashes may become a break, and stands inside or outside a block like the old one.
-/
import MarkdownStyle.Proofs.Fix.Scan
import MarkdownStyle.Proofs.Line.Place
import MarkdownStyle.Proofs.Rule.Site

namespace MarkdownStyle

/-! ## Sites from a state on -/

namespace LineScan

/-- The sites of lines that the pass comes to in a state. -/
def sitesOn (s : LineScan) (number : Nat) (blanks : Option Nat) (lines : List Text) : List Site :=
  sitesFrom s.fence blanks (classifyFrom s number lines)

theorem sitesOn_cons (s : LineScan) (number : Nat) (blanks : Option Nat) (line : Text) (rest : List Text) :
    s.sitesOn number blanks (line :: rest) =
      ⟨⟨number, line, s.finalRole line rest⟩, s.fence, blanks⟩ ::
        (s.next line).sitesOn (number + 1) (blanksBelow blanks (s.finalRole line rest)) rest := by
  unfold sitesOn finalRole
  rw [sitesFrom_cons, settled_head]

/-! ## Inserted lines -/

theorem role_nil {s : LineScan} (ho : s.fence.isOpen = false) : s.role [] = .blank :=
  role_of_closed rfl ho

theorem next_nil {s : LineScan} (ho : s.fence.isOpen = false) : s.next [] = ⟨s.fence, some .blank⟩ := by
  rw [next_eq, role_nil ho, FenceState.step_of_ofLine?_eq_none rfl]

/-- Blank lines in front of a line that is no underline below them. -/
theorem sitesOn_inserted {s : LineScan} (ho : s.fence.isOpen = false) (line : Text) (rest : List Text)
    (hline : ∀ level, (⟨s.fence, some .blank⟩ : LineScan).role line ≠ .underline level) :
    ∀ (k number count : Nat), ∃ inserted : List Site,
      s.sitesOn number (some count) (List.replicate (k + 1) [] ++ line :: rest) =
          inserted ++ (⟨s.fence, some .blank⟩ : LineScan).sitesOn (number + (k + 1)) (some (count + (k + 1)))
            (line :: rest) ∧
        inserted.map (·.line.text) = List.replicate (k + 1) [] ∧ ∀ z ∈ inserted, z.line.role = .blank
  | 0, number, count => by
    have hrole : s.finalRole [] (line :: rest) = .blank := by
      rw [finalRole, role_nil ho, next_nil ho, settled_of_not_underline]
      intro level h
      exact hline level (Option.some.inj h)
    refine ⟨[⟨⟨number, [], .blank⟩, s.fence, some count⟩], ?_, rfl, by simp⟩
    show s.sitesOn number (some count) ([] :: line :: rest) = _
    rw [sitesOn_cons, hrole, next_nil ho]
    rfl
  | k + 1, number, count => by
    have hrole : s.finalRole [] (List.replicate (k + 1) [] ++ line :: rest) = .blank := by
      rw [finalRole, role_nil ho, next_nil ho, settled_of_not_underline]
      intro level h
      have hblank : LineScan.role ⟨s.fence, some .blank⟩ [] = .blank := role_nil ho
      rw [List.replicate_succ, List.cons_append, List.head?_cons, Option.map_some, hblank] at h
      cases h
    obtain ⟨inserted, hsites, htexts, hblank⟩ := @sitesOn_inserted ⟨s.fence, some .blank⟩ ho line rest hline k
      (number + 1) (count + 1)
    refine ⟨⟨⟨number, [], .blank⟩, s.fence, some count⟩ :: inserted, ?_, ?_, ?_⟩
    · rw [List.replicate_succ, List.cons_append, sitesOn_cons, hrole, next_nil ho]
      show _ :: sitesOn _ _ (some (count + 1)) _ = _
      rw [hsites, List.cons_append, show number + 1 + (k + 1) = number + (k + 1 + 1) by omega,
        show count + 1 + (k + 1) = count + (k + 1 + 1) by omega]
    · rw [List.map_cons, htexts]
      rfl
    · rintro z (_ | ⟨_, hz⟩)
      · rfl
      · exact hblank z hz

end LineScan

/-! ## Replayed sites -/

namespace Mending

/-- The site is no line of code that would close its block once the fences are mended. -/
def KeepsCode (m : Mending) (x : Site) : Prop :=
  ∀ n ∈ m.fence, x.line.role = .code → ∀ run ∈ FenceLine.ofLine? x.line.text, run.marker = tilde →
    n ≤ run.length → run.indent.length < x.fence.indent

/-- The site is no opening fence whose info string would make its new run too long. -/
def KeepsLength (m : Mending) (x : Site) : Prop :=
  ∀ n ∈ m.fence, x.line.role = .fence → x.fence.isOpen = false →
    ∀ run ∈ FenceLine.ofLine? x.line.text, run.info.head? ≠ some tilde

instance (m : Mending) (x : Site) : Decidable (m.KeepsCode x) :=
  inferInstanceAs (Decidable (∀ n ∈ m.fence, x.line.role = .code → ∀ run ∈ FenceLine.ofLine? x.line.text,
    run.marker = tilde → n ≤ run.length → run.indent.length < x.fence.indent))

instance (m : Mending) (x : Site) : Decidable (m.KeepsLength x) :=
  inferInstanceAs (Decidable (∀ n ∈ m.fence, x.line.role = .fence → x.fence.isOpen = false →
    ∀ run ∈ FenceLine.ofLine? x.line.text, run.info.head? ≠ some tilde))

/-- The sites that stand for a site: inserted blank lines and the line itself. -/
structure Stands (m : Mending) (x : Site) (inserted : List Site) (y : Site) : Prop where
  blank : ∀ z ∈ inserted, z.line.role = .blank
  lines_eq : inserted.map (·.line.text) ++ [y.line.text] = m.lines x
  role : y.line.role = x.line.role ∨ x.line.role = .text ∧ m.edits x ≠ [] ∧ y.line.role = .thematicBreak
  isOpen : y.fence.isOpen = x.fence.isOpen
  blanks : y.blanks = x.blanks.map (· + inserted.length)

/-- Sites that stand for sites, one after the other. -/
inductive Replays (m : Mending) : List Site → List Site → Prop
  | nil : Replays m [] []
  | cons {x y : Site} {inserted xs ys : List Site} : Stands m x inserted y → Replays m xs ys →
      Replays m (x :: xs) (inserted ++ y :: ys)

variable {m : Mending} {s s' : LineScan} {line : Text} {rest : List Text}

/-- Mending changes nothing about whether the next line is an underline. -/
theorem head_eq_underline_iff (hm : m.Valid) {lines : List Text} (h : LineScan.Agrees m.fence s s' lines)
    (number : Nat) (blanks : Option Nat) (level : Nat) :
    ((s.sitesOn number blanks lines).flatMap m.lines).head?.map s'.role = some (.underline level) ↔
      lines.head?.map s.role = some (.underline level) := by
  rcases lines with _ | ⟨line, rest⟩
  · exact Iff.rfl
  rw [LineScan.sitesOn_cons, List.flatMap_cons, List.head?_append_of_ne_nil _ (m.lines_ne_nil _)]
  set x : Site := ⟨⟨number, line, s.finalRole line rest⟩, s.fence, blanks⟩ with hx
  have hminds := m.minds_edits x
  have hnot : ∀ {line' : Text} {role : LineRole}, s.role line = role → role ≠ .underline level →
      underlineLevel? line' = none →
        (some (s'.role line') = some (.underline level) ↔ some (s.role line) = some (.underline level)) := by
    intro line' role hr hne hlevel
    constructor
    · intro h'
      obtain ⟨-, -, hsome, -⟩ := LineScan.role_eq_underline (Option.some.inj h')
      rw [hlevel] at hsome
      cases hsome
    · intro h'
      exact absurd ((hr.symm.trans (Option.some.inj h'))) hne
  unfold Mending.lines
  generalize m.edits x = edits at hminds
  cases hminds with
  | none =>
    rw [editedLine_nil]
    simpa using LineScan.Agrees.role_eq_underline_iff h level
  | @dash style item detail indent hstyle hrole hitem hb hfault =>
    have hr := (LineScan.role_of_finalRole hrole rfl).1
    have hi := (DashItem.indent_of_fault? (hm.step style hstyle) hfault).1
    exact hnot hr LineRole.noConfusion (DashItem.underlineLevel?_mended style hi item.content)
  | @fence length run detail hlength hrole hrun hfault =>
    have hr : s.role line = .fence := (LineScan.finalRole_isFenced rfl).1 hrole
    obtain ⟨new, hnew, -⟩ := FenceStyle.exists_ofLine?_mended (hm.length length hlength)
      (FenceLine.ofLine?_eq_some.1 hrun).1 (!s.fence.isOpen)
    refine hnot hr LineRole.noConfusion ?_
    cases hlevel : underlineLevel? (FenceStyle.mended length run (!s.fence.isOpen)) with
    | none => exact hlevel
    | some l =>
      rw [FenceLine.ofLine?_of_underlineLevel? hlevel] at hnew
      cases hnew
  | @blank style count level' heading hstyle hcount hrole hlt =>
    obtain ⟨k, hk⟩ : ∃ k, (style.required level' - count).toNat = k + 1 :=
      ⟨(style.required level' - count).toNat - 1, by omega⟩
    rw [editedLine_insert, hk, List.replicate_succ]
    have hr : s.role line ≠ .underline level := by
      intro hr
      have hbelow := LineScan.underline_of_finalRole hrole
      obtain ⟨z, -, hz⟩ := Option.map_eq_some_iff.1 hbelow
      have hunder := (LineScan.role_eq_underline hz).2.2.2
      rw [LineScan.next_eq, hr] at hunder
      simp [underlines] at hunder
    exact hnot rfl hr rfl

/-! ## One site -/

/-- The site of a line, and the sites below it. -/
def siteOf (s : LineScan) (line : Text) (rest : List Text) (number : Nat) (blanks : Option Nat) : Site :=
  ⟨⟨number, line, s.finalRole line rest⟩, s.fence, blanks⟩

def sitesBelow (s : LineScan) (line : Text) (rest : List Text) (number : Nat) (blanks : Option Nat) : List Site :=
  (s.next line).sitesOn (number + 1) (blanksBelow blanks (s.finalRole line rest)) rest

/-- The lines in the place of a line stand for its site, and behind them the two passes agree. -/
def StepReplays (m : Mending) (s s' : LineScan) (line : Text) (rest : List Text) (number number' : Nat)
    (blanks : Option Nat) : Prop :=
  ∃ inserted y s'' number'',
    s'.sitesOn number' blanks (m.lines (siteOf s line rest number blanks) ++
        (sitesBelow s line rest number blanks).flatMap m.lines) =
      inserted ++ y :: LineScan.sitesOn s'' number'' (blanksBelow blanks (s.finalRole line rest))
        ((sitesBelow s line rest number blanks).flatMap m.lines) ∧
    m.Stands (siteOf s line rest number blanks) inserted y ∧ LineScan.Agrees m.fence (s.next line) s'' rest

variable {number number' : Nat} {blanks : Option Nat}

/-- One line in the place of another one. -/
theorem stepReplays_of_line {line' : Text} (hlines : m.lines (siteOf s line rest number blanks) = [line'])
    (ho : s'.fence.isOpen = s.fence.isOpen)
    (hrole : s'.finalRole line' ((sitesBelow s line rest number blanks).flatMap m.lines) = s.finalRole line rest ∨
      s.finalRole line rest = .text ∧ m.edits (siteOf s line rest number blanks) ≠ [] ∧
        s'.finalRole line' ((sitesBelow s line rest number blanks).flatMap m.lines) = .thematicBreak)
    (hagrees : LineScan.Agrees m.fence (s.next line) (s'.next line') rest) :
    m.StepReplays s s' line rest number number' blanks := by
  refine ⟨[], ⟨⟨number', line', _⟩, s'.fence, blanks⟩, s'.next line', number' + 1, ?_,
    ⟨by simp, by rw [hlines]; rfl, hrole, ho, by simp [siteOf]⟩, hagrees⟩
  have hblanks : blanksBelow blanks (s'.finalRole line' ((sitesBelow s line rest number blanks).flatMap m.lines)) =
      blanksBelow blanks (s.finalRole line rest) := by
    rcases hrole with hrole | ⟨ht, -, hb⟩
    · rw [hrole]
    · rw [ht, hb]
      rfl
  rw [hlines, List.singleton_append, LineScan.sitesOn_cons, hblanks]
  rfl

/-- A line for which nothing is offered stands for itself, if it stays code in code. -/
theorem stepReplays_of_unedited (hm : m.Valid) (h : LineScan.Agrees m.fence s s' (line :: rest))
    (hruns : m.RunsAt (siteOf s line rest number blanks)) (hcode : m.KeepsCode (siteOf s line rest number blanks))
    (hedits : m.edits (siteOf s line rest number blanks) = []) :
    m.StepReplays s s' line rest number number' blanks := by
  -- a fence for which nothing is offered is right
  have hfence : ∀ n, m.fence = some n → s.role line = .fence → ∀ run, FenceLine.ofLine? line = some run →
      run.marker = tilde ∧ (run.length : Int) = n := by
    intro n hn hr run hrun
    have hpass := (passes_of_edits hruns hedits).fence n hn
    have hfault := FenceStyle.check_eq_none.1 hpass ((LineScan.finalRole_isFenced rfl).2 hr) run hrun
    exact (FenceStyle.fault?_eq_none (FenceLine.ofLine?_eq_some.1 hrun).1.marker).1 hfault
  obtain ⟨hrole, hagrees⟩ := h.unchanged hfence
    (fun n hn hr run hrun => hcode n hn ((LineScan.finalRole_isFenced rfl).2 hr) run hrun)
  exact stepReplays_of_line (by rw [lines, hedits, editedLine_nil]; rfl) h.fence.isOpen
    (.inl (LineScan.finalRole_congr hrole (head_eq_underline_iff hm hagrees _ _))) hagrees

/-- A list item of dashes with other space stands for the old one, as text or as a break. -/
theorem stepReplays_of_dash (hm : m.Valid) (h : LineScan.Agrees m.fence s s' (line :: rest))
    {style : DashItem.Style} {item : ListItem} {detail : String} {indent : Int} (hstyle : m.dash = some style)
    (hr : (siteOf s line rest number blanks).line.role = .text)
    (hfault : DashItem.fault? style item = .ok (some (detail, indent)))
    (hedits : m.edits (siteOf s line rest number blanks) =
      [.replace number (DashItem.mended style indent item.content)]) :
    m.StepReplays s s' line rest number number' blanks := by
  obtain ⟨hrole, hbelow⟩ := LineScan.role_of_finalRole hr rfl
  have ho := @LineScan.isOpen_of_role s line (by rw [hrole]; exact LineRole.noConfusion)
    (by rw [hrole]; exact LineRole.noConfusion)
  have hi := (DashItem.indent_of_fault? (hm.step style hstyle) hfault).1
  obtain ⟨hrole', hagrees⟩ := h.item_mended ho hrole hbelow style hi item.content
  refine stepReplays_of_line (by rw [lines, hedits, editedLine_replace]) h.fence.isOpen ?_ hagrees
  -- it was not underlined before, so it is not underlined now
  have hfinal : s'.finalRole (DashItem.mended style indent item.content)
      ((sitesBelow s line rest number blanks).flatMap m.lines) =
      s'.role (DashItem.mended style indent item.content) :=
    settled_of_not_underline fun level hl => hbelow level ((head_eq_underline_iff hm hagrees _ _ level).1 hl)
  rw [hfinal, hedits]
  rcases hrole' with hrole' | hrole'
  · exact .inl (hrole'.trans hr.symm)
  · exact .inr ⟨hr, by simp, hrole'⟩

/-- A fence of another run stands for the old one, if it gets the right length. -/
theorem stepReplays_of_fence (hm : m.Valid) (h : LineScan.Agrees m.fence s s' (line :: rest))
    {length : Int} {run : FenceLine} (hn : m.fence = some length)
    (hr : (siteOf s line rest number blanks).line.role = .fence) (hrun : FenceLine.ofLine? line = some run)
    (hlength : m.KeepsLength (siteOf s line rest number blanks))
    (hedits : m.edits (siteOf s line rest number blanks) =
      [.replace number (FenceStyle.mended length run (!s.fence.isOpen))]) :
    m.StepReplays s s' line rest number number' blanks := by
  have hrole := (LineScan.finalRole_isFenced rfl).1 hr
  have h' := h
  rw [hn] at h'
  obtain ⟨hrole', hagrees⟩ := h'.fence_mended (hm.length length hn) hrole hrun
    fun ho => hlength length hn hr ho run hrun
  rw [← hn] at hagrees
  refine stepReplays_of_line (by rw [lines, hedits, editedLine_replace]) h.fence.isOpen (.inl ?_) hagrees
  exact ((LineScan.finalRole_isFenced rfl).2 hrole').trans hr.symm

/-- Blank lines and the heading below them stand for the heading. -/
theorem stepReplays_of_blank (hm : m.Valid) (h : LineScan.Agrees m.fence s s' (line :: rest))
    {style : BlankLine.Style} {count level : Nat} {heading : Text} (hcount : blanks = some count)
    (hr : (siteOf s line rest number blanks).line.role = .underlinedText level heading)
    (hlt : (count : Int) < style.required level)
    (hedits : m.edits (siteOf s line rest number blanks) =
      [.insert number (List.replicate (style.required level - count).toNat [])]) :
    m.StepReplays s s' line rest number number' blanks := by
  have hbelow := LineScan.underline_of_finalRole hr
  obtain ⟨z, -, hz⟩ := Option.map_eq_some_iff.1 hbelow
  have hunder := (LineScan.role_eq_underline hz).2.2.2
  rw [LineScan.next_eq] at hunder
  have ho := @LineScan.isOpen_of_role s line (fun hf => by rw [hf] at hunder; cases hunder)
    (fun hc => by rw [hc] at hunder; cases hunder)
  obtain ⟨hnot, hagrees⟩ := h.heading_below_blank ho hbelow
  obtain ⟨k, hk⟩ : ∃ k, (style.required level - count).toNat = k + 1 :=
    ⟨(style.required level - count).toNat - 1, by omega⟩
  -- at least one blank line is missing, and below the new ones the text is still underlined
  obtain ⟨inserted, hsites, htexts, hblank⟩ := LineScan.sitesOn_inserted (h.fence.isOpen.trans ho) line
    ((sitesBelow s line rest number blanks).flatMap m.lines) hnot k number' count
  have hlines : m.lines (siteOf s line rest number blanks) = List.replicate (k + 1) [] ++ [line] := by
    rw [lines, hedits, editedLine_insert, hk]
    rfl
  have hfinal : LineScan.finalRole ⟨s'.fence, some .blank⟩ line
      ((sitesBelow s line rest number blanks).flatMap m.lines) = s.finalRole line rest := by
    rw [LineScan.finalRole_underlined hbelow]
    exact LineScan.finalRole_underlined ((head_eq_underline_iff hm hagrees _ _ level).2 hbelow)
  have hlen : inserted.length = k + 1 := by
    have := congrArg List.length htexts
    simpa using this
  have hbelowBlanks : ∀ n, blanksBelow (some n) (s.finalRole line rest) =
      blanksBelow blanks (s.finalRole line rest) := by
    intro n
    rw [LineScan.finalRole_underlined hbelow]
    rfl
  refine ⟨inserted, ⟨⟨number' + (k + 1), line, s.finalRole line rest⟩, s'.fence, some (count + (k + 1))⟩,
    LineScan.next ⟨s'.fence, some .blank⟩ line, number' + (k + 1) + 1, ?_, ?_, hagrees⟩
  · rw [← hcount] at hsites
    rw [hlines, List.append_assoc, List.singleton_append, hsites, LineScan.sitesOn_cons, hfinal, hbelowBlanks]
  · exact ⟨hblank, by rw [hlines, htexts], .inl rfl, h.fence.isOpen, by simp [siteOf, hcount, hlen]⟩

/-- What mending makes of a line stands for its site, if its code stays code and its fence gets the
right length. -/
theorem stepReplays (hm : m.Valid) (h : LineScan.Agrees m.fence s s' (line :: rest))
    (hruns : m.RunsAt (siteOf s line rest number blanks)) (hcode : m.KeepsCode (siteOf s line rest number blanks))
    (hlength : m.KeepsLength (siteOf s line rest number blanks)) :
    m.StepReplays s s' line rest number number' blanks := by
  have hminds := m.minds_edits (siteOf s line rest number blanks)
  generalize hedits : m.edits (siteOf s line rest number blanks) = edits at hminds
  cases hminds with
  | none => exact stepReplays_of_unedited hm h hruns hcode hedits
  | dash hstyle hr _ _ hfault => exact stepReplays_of_dash hm h hstyle hr hfault hedits
  | fence hn hr hrun _ => exact stepReplays_of_fence hm h hn hr hrun hlength hedits
  | blank _ hcount hr hlt => exact stepReplays_of_blank hm h hcount hr hlt hedits

/-! ## A whole document -/

theorem replays_sitesOn (hm : m.Valid) {lines : List Text} :
    ∀ {s s' : LineScan} {number number' : Nat} {blanks : Option Nat},
      LineScan.Agrees m.fence s s' lines → (∀ x ∈ s.sitesOn number blanks lines, m.RunsAt x) →
      (∀ x ∈ s.sitesOn number blanks lines, m.KeepsCode x) →
      (∀ x ∈ s.sitesOn number blanks lines, m.KeepsLength x) →
      m.Replays (s.sitesOn number blanks lines)
        (s'.sitesOn number' blanks ((s.sitesOn number blanks lines).flatMap m.lines)) := by
  induction lines with
  | nil => intro s s' number number' blanks h _ _ _; exact .nil
  | cons line rest ih =>
    intro s s' number number' blanks h hruns hcode hlength
    rw [LineScan.sitesOn_cons, List.forall_mem_cons] at hruns hcode hlength
    obtain ⟨inserted, y, s'', number'', hsites, hstands, hagrees⟩ :=
      @stepReplays m s s' line rest number number' blanks hm h hruns.1 hcode.1 hlength.1
    have hcons := Replays.cons hstands (@ih _ _ _ number'' _ hagrees hruns.2 hcode.2 hlength.2)
    rw [LineScan.sitesOn_cons, List.flatMap_cons]
    exact hsites ▸ hcons

/-- An opening fence in front of further tildes becomes one that is too long. -/
theorem lines_of_not_keepsLength {x : Site} (hruns : m.RunsAt x) (h : ¬ m.KeepsLength x) :
    ∃ n run, m.fence = some n ∧ x.line.role = .fence ∧ x.fence.isOpen = false ∧
      FenceLine.ofLine? x.line.text = some run ∧ run.info.head? = some tilde ∧
      m.lines x = [FenceStyle.mended n run true] := by
  unfold KeepsLength at h
  push Not at h
  obtain ⟨n, hn, hr, ho, run, hrun, hinfo⟩ := h
  refine ⟨n, run, hn, hr, ho, hrun, hinfo, ?_⟩
  have hproper := (FenceLine.ofLine?_eq_some.1 hrun).1
  have hminds := m.minds_edits x
  unfold lines
  generalize hedits : m.edits x = edits at hminds
  cases hminds with
  | none =>
    have hpass := FenceStyle.check_eq_none.1 ((passes_of_edits hruns hedits).fence n hn) hr run hrun
    have hmarker := ((FenceStyle.fault?_eq_none hproper.marker).1 hpass).1
    exact absurd hmarker.symm (hproper.info tilde hinfo)
  | dash _ hr' => rw [hr] at hr'; cases hr'
  | fence hn' _ hrun' =>
    rw [Option.mem_def.1 hn] at hn'
    rw [Option.mem_def.1 hrun] at hrun'
    cases hn'
    cases hrun'
    rw [editedLine_replace, ho]
    rfl
  | blank _ _ hr' => rw [hr] at hr'; cases hr'

theorem exists_check_ne_none (hm : m.Valid) {lines : List Text} :
    ∀ {s s' : LineScan} {number number' : Nat} {blanks : Option Nat},
      LineScan.Agrees m.fence s s' lines → (∀ x ∈ s.sitesOn number blanks lines, m.RunsAt x) →
      (∀ x ∈ s.sitesOn number blanks lines, m.KeepsCode x) →
      (∃ x ∈ s.sitesOn number blanks lines, ¬ m.KeepsLength x) →
      ∃ n, m.fence = some n ∧ ∃ y ∈ s'.sitesOn number' blanks ((s.sitesOn number blanks lines).flatMap m.lines),
        FenceStyle.check n y ≠ .ok none := by
  induction lines with
  | nil =>
    intro s s' number number' blanks h _ _ hbad
    obtain ⟨x, hx, -⟩ := hbad
    cases hx
  | cons line rest ih =>
    intro s s' number number' blanks h hruns hcode hbad
    rw [LineScan.sitesOn_cons, List.forall_mem_cons] at hruns hcode
    rw [LineScan.sitesOn_cons, List.exists_mem_cons_iff] at hbad
    rw [LineScan.sitesOn_cons, List.flatMap_cons]
    by_cases hlength : m.KeepsLength (siteOf s line rest number blanks)
    · -- the bad fence is further down, where the two passes still agree
      obtain ⟨inserted, y, s'', number'', hsites, -, hagrees⟩ :=
        @stepReplays m s s' line rest number number' blanks hm h hruns.1 hcode.1 hlength
      obtain ⟨n, hn, z, hz, hbad⟩ :=
        @ih _ _ _ number'' _ hagrees hruns.2 hcode.2 (hbad.resolve_left (not_not.2 hlength))
      refine ⟨n, hn, z, ?_, hbad⟩
      exact hsites ▸ List.mem_append_right _ (List.mem_cons_of_mem _ hz)
    · obtain ⟨n, run, hn, hr, ho, hrun, hinfo, hlines⟩ := lines_of_not_keepsLength hruns.1 hlength
      obtain ⟨long, hlong, -, hfault⟩ := FenceStyle.ofLine?_mended_of_tilde (hm.length n hn)
        (FenceLine.ofLine?_eq_some.1 hrun).1 hinfo
      have hstep := FenceState.step_opening hlong (h.fence.isOpen.trans ho)
      have hrole := (s'.role_eq_fence_iff _).2 (by rw [hstep])
      rw [show m.lines _ = _ from hlines, List.singleton_append, LineScan.sitesOn_cons]
      refine ⟨n, hn, _, List.mem_cons_self .., fun hpass => hfault ?_⟩
      exact FenceStyle.check_eq_none.1 hpass ((LineScan.finalRole_isFenced rfl).2 hrole) long hlong

/-! ## What stands for a site passes -/

theorem passes_of_blank {z : Site} (hz : z.line.role = .blank) : m.Passes z where
  dash _ _ := DashItem.check_of_role (by rw [hz]; exact LineRole.noConfusion)
  fence _ _ := FenceStyle.check_of_role (by rw [hz]; exact LineRole.noConfusion)
  blank _ _ := BlankLine.check_of_role (by rw [hz]; rfl)

/-- If there is one line in the place of a line, it stands for it alone. -/
theorem Stands.of_lines_eq {x y : Site} {inserted : List Site} {text : Text} (h : m.Stands x inserted y)
    (hlines : m.lines x = [text]) : inserted = [] ∧ y.line.text = text := by
  obtain ⟨hnone, htext⟩ := List.append_inj' ((h.lines_eq.trans hlines).trans (List.nil_append [text]).symm) rfl
  exact ⟨List.map_eq_nil_iff.1 hnone, List.singleton_inj.1 htext⟩

/-- Where nothing is offered the line stands for itself. -/
theorem Stands.of_edits_eq_nil {x y : Site} {inserted : List Site} (h : m.Stands x inserted y)
    (hedits : m.edits x = []) :
    inserted = [] ∧ y.line.role = x.line.role ∧ y.line.text = x.line.text ∧ y.blanks = x.blanks := by
  obtain ⟨rfl, htext⟩ := h.of_lines_eq (by rw [lines, hedits, editedLine_nil])
  refine ⟨rfl, h.role.resolve_right fun h => h.2.1 hedits, htext, ?_⟩
  simpa using h.blanks

/-- What is no text keeps its role. -/
theorem Stands.role_eq {x y : Site} {inserted : List Site} (h : m.Stands x inserted y) (hr : x.line.role ≠ .text) :
    y.line.role = x.line.role :=
  h.role.resolve_right fun htext => hr htext.1

section

variable {x y : Site} {inserted : List Site} (h : m.Stands x inserted y)

include h

theorem Stands.passes_of_unedited (hruns : m.RunsAt x) (hedits : m.edits x = []) : m.Passes y := by
  obtain ⟨-, hrole, htext, hblanks⟩ := h.of_edits_eq_nil hedits
  have hx := passes_of_edits hruns hedits
  constructor
  · intro style hs
    rw [DashItem.check_eq_none, hrole, htext]
    exact DashItem.check_eq_none.1 (hx.dash style hs)
  · intro n hn
    rw [FenceStyle.check_eq_none, hrole, htext]
    exact FenceStyle.check_eq_none.1 (hx.fence n hn)
  · intro style hs
    rw [BlankLine.check_eq_none, hrole, hblanks]
    exact BlankLine.check_eq_none.1 (hx.blank style hs)

/-- An item is mended to the right space, and the other checks look at neither text nor breaks. -/
theorem Stands.passes_of_dash (hm : m.Valid) {style : DashItem.Style} {item : ListItem} {detail : String}
    {indent : Int} (hstyle : m.dash = some style) (hr : x.line.role = .text)
    (hitem : ListItem.ofLine? x.line.text = some item)
    (hfault : DashItem.fault? style item = .ok (some (detail, indent)))
    (hedits : m.edits x = [.replace x.line.number (DashItem.mended style indent item.content)]) : m.Passes y := by
  obtain ⟨-, htext⟩ := h.of_lines_eq (by rw [lines, hedits, editedLine_replace])
  have hrole : y.line.role = .text ∨ y.line.role = .thematicBreak := by
    rcases h.role with h | ⟨-, -, h⟩
    · exact .inl (h.trans hr)
    · exact .inr h
  constructor
  · intro style' hs
    rw [hstyle] at hs
    cases hs
    obtain ⟨new, hnew, hright⟩ := DashItem.fault?_mended (hm.step style hstyle) (hm.gap style hstyle) hitem hfault
    rw [DashItem.check_eq_none, htext]
    intro _ item' hitem' _
    rw [hnew] at hitem'
    cases hitem'
    exact hright
  · intro n _
    refine FenceStyle.check_of_role ?_
    rcases hrole with hrole | hrole <;> rw [hrole] <;> exact LineRole.noConfusion
  · intro style' _
    exact BlankLine.check_of_role (by rcases hrole with hrole | hrole <;> rw [hrole] <;> rfl)

/-- A fence is mended to the right run, unless its info string goes on with the new marker. -/
theorem Stands.passes_of_fence (hm : m.Valid) {length : Int} {run : FenceLine} (hn : m.fence = some length)
    (hr : x.line.role = .fence) (hrun : FenceLine.ofLine? x.line.text = some run) (hlength : m.KeepsLength x)
    (hedits : m.edits x = [.replace x.line.number (FenceStyle.mended length run (!x.fence.isOpen))]) :
    m.Passes y := by
  obtain ⟨-, htext⟩ := h.of_lines_eq (by rw [lines, hedits, editedLine_replace])
  have hrole : y.line.role = .fence := (h.role_eq (by rw [hr]; exact LineRole.noConfusion)).trans hr
  constructor
  · intro style _
    exact DashItem.check_of_role (by rw [hrole]; exact LineRole.noConfusion)
  · intro n hn'
    rw [hn] at hn'
    cases hn'
    have hnew := @FenceStyle.ofLine?_mended length run (hm.length length hn) (FenceLine.ofLine?_eq_some.1 hrun).1
      (!x.fence.isOpen) fun ho => hlength length hn hr (by simpa using ho) run hrun
    rw [FenceStyle.check_eq_none, htext]
    intro _ run' hrun'
    rw [hnew] at hrun'
    cases hrun'
    exact FenceStyle.fault?_right (hm.length length hn) run _
  · intro style _
    exact BlankLine.check_of_role (by rw [hrole]; rfl)

/-- A heading gets the blank lines that it lacks. -/
theorem Stands.passes_of_blank {style : BlankLine.Style} {count level : Nat} {heading : Text}
    (hstyle : m.blank = some style) (hcount : x.blanks = some count)
    (hr : x.line.role = .underlinedText level heading) (hlt : (count : Int) < style.required level)
    (hedits : m.edits x =
      [.insert x.line.number (List.replicate (style.required level - count).toNat [])]) : m.Passes y := by
  have hlines : m.lines x = List.replicate (style.required level - count).toNat [] ++ [x.line.text] := by
    rw [lines, hedits, editedLine_insert]
  obtain ⟨htexts, -⟩ := List.append_inj' (h.lines_eq.trans hlines) rfl
  have hlen : inserted.length = (style.required level - count).toNat := by
    simpa using congrArg List.length htexts
  have hrole : y.line.role = .underlinedText level heading :=
    (h.role_eq (by rw [hr]; exact LineRole.noConfusion)).trans hr
  constructor
  · intro style _
    exact DashItem.check_of_role (by rw [hrole]; exact LineRole.noConfusion)
  · intro n _
    exact FenceStyle.check_of_role (by rw [hrole]; exact LineRole.noConfusion)
  · intro style' hs
    rw [hstyle] at hs
    cases hs
    rw [BlankLine.check_eq_none, h.blanks, hcount, hrole, hlen]
    rintro count' level' heading' ⟨⟩ ⟨⟩
    show style.required level ≤ ((count + (style.required level - count).toNat : Nat) : Int)
    omega

/-- The line that stands for a site passes the checks that it was mended for. -/
theorem Stands.passes (hm : m.Valid) (hruns : m.RunsAt x) (hlength : m.KeepsLength x) : m.Passes y := by
  have hminds := m.minds_edits x
  generalize hedits : m.edits x = edits at hminds
  cases hminds with
  | none => exact h.passes_of_unedited hruns hedits
  | dash hstyle hr hitem _ hfault => exact h.passes_of_dash hm hstyle hr hitem hfault hedits
  | fence hn hr hrun _ => exact h.passes_of_fence hm hn hr hrun hlength hedits
  | blank hstyle hcount hr hlt => exact h.passes_of_blank hstyle hcount hr hlt hedits

end

/-- If the fences get the right length, the whole mended document passes. -/
theorem Replays.passes {xs ys : List Site} (hm : m.Valid) (h : m.Replays xs ys) (hruns : ∀ x ∈ xs, m.RunsAt x)
    (hlength : ∀ x ∈ xs, m.KeepsLength x) : ∀ y ∈ ys, m.Passes y := by
  induction h with
  | nil => simp
  | @cons x y inserted xs ys hstands _ ih =>
    obtain ⟨hrun, hruns⟩ := List.forall_mem_cons.1 hruns
    obtain ⟨hlen, hlength⟩ := List.forall_mem_cons.1 hlength
    intro z hz
    rcases List.mem_append.1 hz with hz | hz
    · exact passes_of_blank (hstands.blank z hz)
    · rcases List.mem_cons.1 hz with rfl | hz
      · exact hstands.passes hm hrun hlen
      · exact ih hruns hlength z hz

/-- A line for which nothing is offered is still there in the mended document. -/
theorem Replays.exists_unchanged {xs ys : List Site} (h : m.Replays xs ys) {x : Site} (hx : x ∈ xs)
    (hedits : m.edits x = []) : ∃ y ∈ ys, y.line.role = x.line.role ∧ y.line.text = x.line.text := by
  induction h with
  | nil => cases hx
  | @cons x' y inserted xs ys hstands _ ih =>
    rcases List.mem_cons.1 hx with rfl | hx
    · obtain ⟨-, hrole, htext, -⟩ := hstands.of_edits_eq_nil hedits
      exact ⟨y, by simp, hrole, htext⟩
    · obtain ⟨z, hz, hsame⟩ := ih hx
      exact ⟨z, by simp [hz], hsame⟩

end Mending

end MarkdownStyle
