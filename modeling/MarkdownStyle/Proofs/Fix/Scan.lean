/-
The classification pass over a document and over its mended version, side by side. The two scans
agree on where blocks of code are and on the roles to come; each kind of mended line keeps them in
agreement, as long as no line of code closes a block whose fence was written anew.
-/
import MarkdownStyle.Proofs.Fix.Accepted
import MarkdownStyle.Proofs.Line.Fence
import MarkdownStyle.Proofs.Line.Pass

namespace MarkdownStyle

/-! ## Agreement -/

/-- Two states of the fence scan that stand at the same place of a document and of its mended
version. Where fences are mended the open block of the new one starts with tildes of the length. -/
structure FenceState.Agrees (length? : Option Int) (s s' : FenceState) : Prop where
  isOpen : s'.isOpen = s.isOpen
  indent : s'.indent = s.indent
  same : length? = none → s' = s
  mended : ∀ n, length? = some n → s.isOpen = true → s'.marker = some tilde ∧ (s'.length : Int) = n

theorem FenceState.Agrees.refl_of_closed (length? : Option Int) {s : FenceState} (h : s.isOpen = false) :
    Agrees length? s s :=
  ⟨rfl, rfl, fun _ => rfl, fun _ _ ho => by rw [h] at ho; cases ho⟩

/-- The roles of the line above in a document and in its mended version, given the line below. -/
inductive AboveAgrees : Option LineRole → Option LineRole → Option Text → Prop
  | same {role : Option LineRole} {next : Option Text} : AboveAgrees role role next
  /-- A list item of dashes has become a break. -/
  | broken {next : Option Text} : (∀ line ∈ next, underlineLevel? line = none) →
      AboveAgrees (some .text) (some .thematicBreak) next
  /-- Blank lines have come between a link definition and the text of a heading. -/
  | freed {line : Text} : underlineLevel? line = some 1 →
      AboveAgrees (some .continuation) (some .text) (some line)

theorem AboveAgrees.outsideRole_eq {above above' : Option LineRole} {line : Text}
    (h : AboveAgrees above above' (some line)) : outsideRole above' line = outsideRole above line := by
  cases h with
  | same => rfl
  | broken h =>
    unfold outsideRole
    rw [h line rfl]
    simp only
    rw [plainRole_eq (some .text), plainRole_eq (some .thematicBreak)]
    simp [inDefinition]
  | freed h => simp [outsideRole, h, underlines]

/-- What stays plain text does not continue a link definition in the mended version either. -/
theorem AboveAgrees.not_inDefinition {above above' : Option LineRole} {line : Text}
    (h : AboveAgrees above above' (some line)) (ht : outsideRole above line = .text) :
    inDefinition above' = false := by
  cases h with
  | same =>
    cases hd : inDefinition above with
    | false => rfl
    | true =>
      rcases outsideRole_cases above line with ⟨level, hr⟩ | hr
      · rw [ht] at hr; cases hr
      · rw [ht, plainRole_eq, hd] at hr
        split at hr
        · cases hr
        · rename_i hn
          exact absurd ⟨hr.symm, rfl⟩ hn
  | broken => rfl
  | freed h => simp [outsideRole, h, underlines] at ht

/-- Two states of the pass at the same place of a document and of its mended version, in front of
the lines that are still to come in the document. -/
structure LineScan.Agrees (length? : Option Int) (s s' : LineScan) (rest : List Text) : Prop where
  fence : FenceState.Agrees length? s.fence s'.fence
  above : s.fence.isOpen = false → AboveAgrees s.above s'.above rest.head?

theorem LineScan.Agrees.start (length? : Option Int) (lines : List Text) : Agrees length? .start .start lines :=
  ⟨.refl_of_closed length? rfl, fun _ => .same⟩

/-! ## Fences -/

/-- A run of tildes that is as long as the style says closes a mended block like the old one. -/
theorem FenceState.Agrees.closedBy {length? : Option Int} {s s' : FenceState} (h : Agrees length? s s')
    {run run' : FenceLine} (hc : s.closedBy run.marker run.length run.indent.length = true)
    (hi : run'.indent = run.indent) (hsame : length? = none → run' = run)
    (hright : ∀ n, length? = some n → run'.marker = tilde ∧ (run'.length : Int) = n) :
    s'.closedBy run'.marker run'.length run'.indent.length = true := by
  obtain ⟨ho, -, -, hindent⟩ := FenceState.closedBy_iff.1 hc
  cases length? with
  | none => rw [h.same rfl, hsame rfl, hc]
  | some n =>
    obtain ⟨hm, hl⟩ := h.mended n rfl ho
    obtain ⟨hm', hl'⟩ := hright n rfl
    exact FenceState.closedBy_iff.2
      ⟨h.isOpen.trans ho, by rw [hm, hm'], by omega, by rw [h.indent, hi]; exact hindent⟩

theorem FenceState.agrees_opened {length? : Option Int} {run run' : FenceLine} (hi : run'.indent = run.indent)
    (hsame : length? = none → run' = run)
    (hright : ∀ n, length? = some n → run'.marker = tilde ∧ (run'.length : Int) = n) :
    Agrees length? (opened run) (opened run') where
  isOpen := rfl
  indent := congrArg List.length hi
  same h := by rw [hsame h]
  mended n hn _ := by
    obtain ⟨hm, hl⟩ := hright n hn
    exact ⟨congrArg some hm, hl⟩

/-- What a line is in a document, it is in the mended version: a fence that is right, or a line of
code that does not close the mended block. -/
theorem FenceState.Agrees.step {length? : Option Int} {s s' : FenceState} {line : Text} (h : Agrees length? s s')
    (hfence : ∀ n, length? = some n → (s.step line).2 = true → ∀ run, FenceLine.ofLine? line = some run →
      run.marker = tilde ∧ (run.length : Int) = n)
    (hcode : ∀ n, length? = some n → (s.step line).2 = false → s.isOpen = true → ∀ run,
      FenceLine.ofLine? line = some run → run.marker = tilde → n ≤ run.length → run.indent.length < s.indent) :
    (s'.step line).2 = (s.step line).2 ∧ Agrees length? (s.step line).1 (s'.step line).1 := by
  rcases s.step_cases line with ⟨run, hrun, ho, hs⟩ | ⟨ho, ⟨run, hrun, hc⟩, hs⟩ | ⟨hnone, hc, hs⟩
  · rw [hs, step_opening hrun (h.isOpen.trans ho)]
    exact ⟨rfl, agrees_opened rfl (fun _ => rfl) fun n hn => hfence n hn (by rw [hs]) run hrun⟩
  · have hc' := h.closedBy hc rfl (fun _ => rfl) fun n hn => hfence n hn (by rw [hs]) run hrun
    rw [hs, step_closing (h.isOpen.trans ho) ⟨run, hrun, hc'⟩]
    exact ⟨rfl, .refl_of_closed length? rfl⟩
  · have hs' : s'.step line = (s', false) := by
      cases ho : s.isOpen with
      | false => exact step_of_ofLine?_eq_none (hnone ho)
      | true =>
        -- a line of code closes neither the old block nor the mended one
        refine step_inside (h.isOpen.trans ho) ?_
        rintro ⟨run, hrun, hclosed⟩
        cases length? with
        | none =>
          rw [h.same rfl] at hclosed
          exact hc ⟨run, hrun, hclosed⟩
        | some n =>
          obtain ⟨-, hm, hl, hi⟩ := closedBy_iff.1 hclosed
          obtain ⟨hm', hl'⟩ := h.mended n rfl ho
          rw [hm', Option.some.injEq] at hm
          have := hcode n rfl (by rw [hs]) ho run hrun hm.symm (by omega)
          rw [h.indent] at hi
          omega
    rw [hs, hs']
    exact ⟨rfl, h⟩

/-! ## Lines -/

variable {length? : Option Int} {s s' : LineScan} {line : Text} {rest : List Text}

theorem LineScan.next_eq (s : LineScan) (line : Text) :
    s.next line = ⟨(s.fence.step line).1, some (s.role line)⟩ := rfl

theorem LineScan.role_of_closed (h : FenceLine.ofLine? line = none) (ho : s.fence.isOpen = false) :
    s.role line = outsideRole s.above line := by
  rw [s.role_eq, FenceState.step_of_ofLine?_eq_none h, if_neg Bool.false_ne_true, if_neg (by simp [ho])]

theorem LineScan.Agrees.role_eq_underline_iff (h : Agrees length? s s' (line :: rest)) (level : Nat) :
    s'.role line = .underline level ↔ s.role line = .underline level := by
  cases ho : s.fence.isOpen with
  | true =>
    constructor
    · intro hr
      obtain ⟨-, hclosed, -⟩ := LineScan.role_eq_underline hr
      rw [h.fence.isOpen, ho] at hclosed
      cases hclosed
    · intro hr
      obtain ⟨-, hclosed, -⟩ := LineScan.role_eq_underline hr
      rw [ho] at hclosed
      cases hclosed
  | false =>
    cases hrun : FenceLine.ofLine? line with
    | none =>
      rw [LineScan.role_of_closed hrun ho, LineScan.role_of_closed hrun (h.fence.isOpen.trans ho),
        (h.above ho).outsideRole_eq]
    | some run =>
      rw [(s.role_eq_fence_iff line).2 (by rw [FenceState.step_opening hrun ho]),
        (s'.role_eq_fence_iff line).2 (by rw [FenceState.step_opening hrun (h.fence.isOpen.trans ho)])]

/-- A line that stays as it is keeps its role, if as a fence it is right and as code it does not
close a mended block. -/
theorem LineScan.Agrees.unchanged (h : Agrees length? s s' (line :: rest))
    (hfence : ∀ n, length? = some n → s.role line = .fence → ∀ run, FenceLine.ofLine? line = some run →
      run.marker = tilde ∧ (run.length : Int) = n)
    (hcode : ∀ n, length? = some n → s.role line = .code → ∀ run, FenceLine.ofLine? line = some run →
      run.marker = tilde → n ≤ run.length → run.indent.length < s.fence.indent) :
    s'.role line = s.role line ∧ Agrees length? (s.next line) (s'.next line) rest := by
  obtain ⟨hdelimiter, hnext⟩ := h.fence.step (fun n hn hd => hfence n hn ((s.role_eq_fence_iff line).2 hd))
    fun n hn hd ho => hcode n hn ((s.role_eq_code_iff line).2 ⟨hd, ho⟩)
  have hrole : s'.role line = s.role line := by
    rw [s.role_eq, s'.role_eq, hdelimiter, h.fence.isOpen]
    cases ho : s.fence.isOpen with
    | true => simp
    | false => rw [(h.above ho).outsideRole_eq]
  exact ⟨hrole, hnext, fun _ => by rw [LineScan.next_eq, LineScan.next_eq, hrole]; exact .same⟩

/-- A fence that is written anew stays a fence. -/
theorem LineScan.Agrees.fence_mended {n : Int} (hn : 3 ≤ n) (h : Agrees (some n) s s' (line :: rest))
    (hr : s.role line = .fence) {run : FenceLine} (hrun : FenceLine.ofLine? line = some run)
    (hinfo : s.fence.isOpen = false → run.info.head? ≠ some tilde) :
    let line' := FenceStyle.mended n run (!s.fence.isOpen)
    s'.role line' = .fence ∧ Agrees (some n) (s.next line) (s'.next line') rest := by
  intro line'
  have hproper := (FenceLine.ofLine?_eq_some.1 hrun).1
  have hrun' : FenceLine.ofLine? line' = some (FenceStyle.right n run (!s.fence.isOpen)) :=
    FenceStyle.ofLine?_mended hn hproper (by simpa using hinfo)
  have hright : ∀ k, some n = some k → (FenceStyle.right n run (!s.fence.isOpen)).marker = tilde ∧
      ((FenceStyle.right n run (!s.fence.isOpen)).length : Int) = k := by
    rintro k ⟨⟩
    exact ⟨rfl, Int.toNat_of_nonneg (by omega)⟩
  rw [s.role_eq_fence_iff] at hr
  have hsteps : (s'.fence.step line').2 = true ∧
      FenceState.Agrees (some n) (s.fence.step line).1 (s'.fence.step line').1 := by
    rcases s.fence.step_cases line with ⟨run₀, hrun₀, ho, hs⟩ | ⟨ho, ⟨run₀, hrun₀, hc⟩, hs⟩ | ⟨-, -, hs⟩
    · rw [hrun] at hrun₀
      cases hrun₀
      rw [hs, FenceState.step_opening hrun' (h.fence.isOpen.trans ho)]
      exact ⟨rfl, FenceState.agrees_opened rfl (by simp) hright⟩
    · rw [hrun] at hrun₀
      cases hrun₀
      have hc' := h.fence.closedBy hc
        (show (FenceStyle.right n run (!s.fence.isOpen)).indent = run.indent from rfl) (by simp) hright
      rw [hs, FenceState.step_closing (h.fence.isOpen.trans ho) ⟨_, hrun', hc'⟩]
      exact ⟨rfl, .refl_of_closed _ rfl⟩
    · rw [hs] at hr
      cases hr
  have hrole := (s'.role_eq_fence_iff line').2 hsteps.1
  refine ⟨hrole, hsteps.2, fun _ => ?_⟩
  rw [LineScan.next_eq, LineScan.next_eq, hrole, (s.role_eq_fence_iff line).2 hr]
  exact .same

/-! ## List items -/

theorem DashItem.underlineLevel?_mended (style : Style) {indent : Int} (hi : 1 ≤ indent) (content : Text) :
    underlineLevel? (mended style indent content) = none := by
  obtain ⟨n, hn⟩ : ∃ n, indent.toNat = n + 1 := ⟨indent.toNat - 1, by omega⟩
  unfold mended
  rw [hn, List.replicate_succ]
  rfl

theorem DashItem.outsideRole_mended {style : Style} {indent : Int} (hi : 1 ≤ indent) (content : Text)
    {above : Option LineRole} (ha : inDefinition above = false) :
    outsideRole above (mended style indent content) = .text ∨
      outsideRole above (mended style indent content) = .thematicBreak := by
  obtain ⟨n, hn⟩ : ∃ n, indent.toNat = n + 1 := ⟨indent.toNat - 1, by omega⟩
  have hline : mended style indent content =
      ' ' :: (List.replicate n ' ' ++ '-' :: (List.replicate style.gap.toNat ' ' ++ content)) := by
    unfold mended
    rw [hn, List.replicate_succ, List.cons_append]
  have hlevel := underlineLevel?_mended style hi content
  have hblank : Text.isAllBlank (mended style indent content) = false := by
    rw [Text.isAllBlank, List.all_eq_false]
    exact ⟨'-', by simp [mended], by decide⟩
  have hhashes : hashHeading? (mended style indent content) = none := by
    unfold hashHeading?
    have hspan : Text.span (· == '#') (mended style indent content) = ([], mended style indent content) := by
      refine Text.span_eq_iff.2 ⟨rfl, by simp, ?_⟩
      rw [hline]
      rintro c ⟨⟩
      decide
    simp [hspan]
  have hlabel : definitionLabel? (mended style indent content) = none := by
    unfold definitionLabel?
    rw [trimLeft_mended]
    rfl
  unfold outsideRole plainRole
  rw [hlevel, hblank, hhashes, hlabel]
  simp only [Bool.false_eq_true, if_false]
  split
  · exact .inr rfl
  · rcases above with _ | role
    · exact .inl rfl
    · cases role <;> first | exact .inl rfl | cases ha

theorem DashItem.ofLine?_mended_eq_none (style : Style) (indent : Int) (content : Text) :
    FenceLine.ofLine? (mended style indent content) = none := by
  exact FenceLine.ofLine?_eq_none (fun _ => isBlank_of_mem_spaces) isBlank_dash (by decide)

/-- Outside a block a line that is no fence is no fence run. -/
theorem LineScan.ofLine?_of_closed (ho : s.fence.isOpen = false) (hr : s.role line ≠ .fence) :
    FenceLine.ofLine? line = none := by
  cases hrun : FenceLine.ofLine? line with
  | none => rfl
  | some run => exact absurd ((s.role_eq_fence_iff line).2 ((FenceState.step_of_closed ho).2 ⟨run, hrun⟩)) hr

/-- A list item that is laid out anew stays text, or becomes a break. -/
theorem LineScan.Agrees.item_mended (h : Agrees length? s s' (line :: rest)) (ho : s.fence.isOpen = false)
    (hr : s.role line = .text) (hbelow : ∀ level, rest.head?.map (s.next line).role ≠ some (.underline level))
    (style : DashItem.Style) {indent : Int} (hi : 1 ≤ indent) (content : Text) :
    let line' := DashItem.mended style indent content
    (s'.role line' = .text ∨ s'.role line' = .thematicBreak) ∧
      Agrees length? (s.next line) (s'.next line') rest := by
  intro line'
  have ho' := h.fence.isOpen.trans ho
  have hnone := LineScan.ofLine?_of_closed ho (by rw [hr]; exact LineRole.noConfusion)
  have hnone' : FenceLine.ofLine? line' = none := DashItem.ofLine?_mended_eq_none style indent content
  have hout : outsideRole s.above line = .text := by rw [← LineScan.role_of_closed hnone ho, hr]
  have hrole : s'.role line' = .text ∨ s'.role line' = .thematicBreak := by
    rw [LineScan.role_of_closed hnone' ho']
    exact DashItem.outsideRole_mended hi content ((h.above ho).not_inDefinition hout)
  refine ⟨hrole, ?_, fun _ => ?_⟩
  · rw [LineScan.next_eq, LineScan.next_eq, FenceState.step_of_ofLine?_eq_none hnone,
      FenceState.step_of_ofLine?_eq_none hnone']
    exact h.fence
  · rw [LineScan.next_eq, LineScan.next_eq, hr]
    rcases hrole with hrole | hrole
    · rw [hrole]
      exact .same
    · rw [hrole]
      refine .broken fun z hz => ?_
      cases hlevel : underlineLevel? z with
      | none => rfl
      | some level =>
        refine absurd ?_ (hbelow level)
        rw [Option.mem_def.1 hz, Option.map_some,
          LineScan.role_of_closed (FenceLine.ofLine?_of_underlineLevel? hlevel)
            (by rw [LineScan.next_eq, FenceState.step_of_ofLine?_eq_none hnone]; exact ho)]
        rw [LineScan.next_eq, hr]
        exact congrArg some (outsideRole_eq_underline_iff.2 ⟨hlevel, rfl⟩)

/-! ## Headings below inserted lines -/

/-- Below blank lines the text of a heading is still underlined. -/
theorem LineScan.Agrees.heading_below_blank (h : Agrees length? s s' (line :: rest)) (ho : s.fence.isOpen = false)
    {level : Nat} (hbelow : rest.head?.map (s.next line).role = some (.underline level)) :
    let below : LineScan := ⟨s'.fence, some .blank⟩
    (∀ l, below.role line ≠ .underline l) ∧ Agrees length? (s.next line) (below.next line) rest := by
  intro below
  obtain ⟨z, hz, hrole⟩ := Option.map_eq_some_iff.1 hbelow
  obtain ⟨-, -, hlevel, hunder⟩ := LineScan.role_eq_underline hrole
  rw [LineScan.next_eq] at hunder
  have hnone : FenceLine.ofLine? line = none :=
    LineScan.ofLine?_of_closed ho fun hf => by rw [hf] at hunder; cases hunder
  have hnotUnderline : ∀ l, outsideRole (some .blank) line ≠ .underline l := by
    intro l hl
    have := (outsideRole_eq_underline_iff.1 hl).2
    simp [underlines] at this
  have hbelowRole : below.role line = outsideRole (some .blank) line :=
    LineScan.role_of_closed hnone (h.fence.isOpen.trans ho)
  refine ⟨fun l => by rw [hbelowRole]; exact hnotUnderline l, ?_, fun _ => ?_⟩
  · rw [LineScan.next_eq, LineScan.next_eq, FenceState.step_of_ofLine?_eq_none hnone,
      FenceState.step_of_ofLine?_eq_none hnone]
    exact h.fence
  · have hplain : outsideRole (some .blank) line = plainRole none line := by
      rcases outsideRole_cases (some .blank) line with ⟨l, hl⟩ | hl
      · exact absurd hl (hnotUnderline l)
      · rw [hl, plainRole_eq]
        simp [inDefinition]
    have hold : s.role line = plainRole s.above line := by
      rcases outsideRole_cases s.above line with ⟨l, hl⟩ | hl
      · rw [LineScan.role_of_closed hnone ho, hl] at hunder
        simp [underlines] at hunder
      · rw [LineScan.role_of_closed hnone ho, hl]
    rw [LineScan.next_eq, LineScan.next_eq, hbelowRole, hplain]
    by_cases hd : plainRole none line = .text ∧ inDefinition s.above = true
    · -- a continuation has become text, and only equals signs could underline it
      have hcont : s.role line = .continuation := by rw [hold, plainRole_eq, if_pos hd]
      rw [hcont] at hunder ⊢
      have hone : level = 1 := by simpa [underlines] using hunder
      rw [hd.1, hz]
      exact .freed (by rw [hlevel, hone])
    · rw [hold, plainRole_eq, if_neg hd]
      exact .same

end MarkdownStyle
