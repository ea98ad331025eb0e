/-
What writing fences anew does to the structure of a document. An opener gets a run of tildes, and
tildes that its info string starts with lengthen the run; so a line inside may close the block early,
and the closing line may be too short to close it. Where neither happens, every line keeps its role.
-/
import MarkdownStyle.Proofs.Fix.Fixpoint
import MarkdownStyle.Proofs.Fix.Single
import MarkdownStyle.Proofs.Line.Block
import Mathlib

namespace MarkdownStyle

/-! ## Blocks that keep their extent -/

/-- How long a run that opens a block is once it is written anew: as long as the style says, with the
tildes that the info string behind a run of backticks starts with. -/
def FenceLine.mendedLength (length : Int) (run : FenceLine) : Int :=
  length + if run.marker = backtick then ((run.info.takeWhile (· == tilde)).length : Int) else 0

/-- What a run that opens a block is read as once it is written anew. -/
structure FenceLine.Reopens (length : Int) (run new : FenceLine) : Prop where
  indent : new.indent = run.indent
  marker : new.marker = tilde
  mendedLength : (new.length : Int) = run.mendedLength length

/-- No line inside would close the block behind its new opener, and the new closing line still does. -/
structure FencedBlock.Keeps (length : Int) (b : FencedBlock) : Prop where
  inside : ∀ line ∈ b.inside, ¬ ∃ run, FenceLine.ofLine? line = some run ∧ run.marker = tilde ∧
    b.opener.mendedLength length ≤ run.length ∧ b.opener.indent.length ≤ run.indent.length
  closer : b.closer.isSome = true → b.opener.mendedLength length = length

instance (length : Int) (b : FencedBlock) : Decidable (b.Keeps length) :=
  decidable_of_iff ((∀ line ∈ b.inside, ¬ ∃ run ∈ FenceLine.ofLine? line, run.marker = tilde ∧
      b.opener.mendedLength length ≤ run.length ∧ b.opener.indent.length ≤ run.indent.length) ∧
    (b.closer.isSome = true → b.opener.mendedLength length = length))
    ⟨fun h => ⟨h.1, h.2⟩, fun h => ⟨h.inside, h.closer⟩⟩

namespace FenceStyle

variable {length : Int}

/-! ## Lines written anew -/

/-- The line that the fence rule puts in the place of a line. -/
def mendLine (length : Int) (s : FenceState) (line : Text) : Text :=
  match FenceLine.ofLine? line with
  | none => line
  | some run =>
    if (s.step line).2 && (fault? length run).isSome then mended length run (!s.isOpen) else line

/-- The lines of a document with its fences written anew. -/
def mendLines (length : Int) (lines : List Text) : List Text := FenceState.outside.along (mendLine length) lines

theorem mendLine_of_not_fence {s : FenceState} {line : Text} (h : (s.step line).2 = false) :
    mendLine length s line = line := by
  unfold mendLine
  split
  · rfl
  · rw [h]; rfl

theorem mendLine_of_fence {s : FenceState} {line : Text} {run : FenceLine} (hrun : FenceLine.ofLine? line = some run)
    (h : (s.step line).2 = true) :
    fault? length run = none ∧ mendLine length s line = line ∨
      mendLine length s line = mended length run (!s.isOpen) := by
  have hline : mendLine length s line =
      if (fault? length run).isSome then mended length run (!s.isOpen) else line := by
    simp only [mendLine, hrun, h, Bool.true_and]
  rw [hline]
  cases fault? length run with
  | none => exact .inl ⟨rfl, rfl⟩
  | some detail => exact .inr rfl

/-- A fence that opens a block is one again once it is written anew. -/
theorem exists_mended_opener (hl : 3 ≤ length) {line : Text} {run : FenceLine}
    (hrun : FenceLine.ofLine? line = some run) :
    ∃ new, FenceLine.ofLine? (mendLine length .outside line) = some new ∧ run.Reopens length new := by
  have hproper := (FenceLine.ofLine?_eq_some.1 hrun).1
  have hfence : (FenceState.outside.step line).2 = true := by rw [FenceState.step_opening hrun rfl]
  rcases mendLine_of_fence hrun hfence with ⟨hright, hsame⟩ | hmended
  · obtain ⟨hmarker, hlength⟩ := (fault?_eq_none hproper.marker).1 hright
    have hne : run.marker ≠ backtick := by rw [hmarker]; decide
    refine ⟨run, by rw [hsame, hrun], ⟨rfl, hmarker, ?_⟩⟩
    rw [FenceLine.mendedLength, if_neg hne, hlength, add_zero]
  · rw [hmended]
    refine ⟨_, ofLine?_mended_opener hl hproper, ⟨rfl, rfl, ?_⟩⟩
    show ((length.toNat + (run.info.takeWhile (· == tilde)).length : Nat) : Int) = _
    rw [FenceLine.mendedLength, Nat.cast_add, Int.toNat_of_nonneg (by omega)]
    split
    · rfl
    · -- the info string behind a run of tildes does not start with one
      rename_i hne
      have hmarker : run.marker = tilde := hproper.marker.resolve_left hne
      have hinfo : run.info.takeWhile (· == tilde) = [] := by
        rcases hi : run.info with _ | ⟨c, rest⟩
        · rfl
        · have hc : c ≠ tilde := hmarker ▸ hproper.info c (by rw [hi]; rfl)
          exact List.takeWhile_cons_of_neg (by simpa using hc)
      rw [hinfo]
      rfl

/-- What a fence that closes a block is read as once it is written anew. -/
theorem exists_mended_closer (hl : 3 ≤ length) {s : FenceState} (ho : s.isOpen = true) {line : Text}
    (hc : s.ClosedByLine line) :
    ∃ new, FenceLine.ofLine? (mendLine length s line) = some new ∧ s.indent ≤ new.indent.length ∧
      new.marker = tilde ∧ (new.length : Int) = length := by
  obtain ⟨run, hrun, hcloses⟩ := hc
  obtain ⟨-, -, -, hindent⟩ := FenceState.closedBy_iff.1 hcloses
  have hproper := (FenceLine.ofLine?_eq_some.1 hrun).1
  have hfence : (s.step line).2 = true := (FenceState.step_of_open ho).2 ⟨run, hrun, hcloses⟩
  rcases mendLine_of_fence hrun hfence with ⟨hright, hsame⟩ | hmended
  · obtain ⟨hmarker, hlength⟩ := (fault?_eq_none hproper.marker).1 hright
    exact ⟨run, by rw [hsame, hrun], hindent, hmarker, hlength⟩
  · refine ⟨right length run false, ?_, hindent, rfl, Int.toNat_of_nonneg (by omega)⟩
    rw [hmended, ho]
    exact ofLine?_mended hl hproper (fun hf => by cases hf)

/-! ## Blocks written anew -/

theorem mendLines_plain {line : Text} {rest : List Text} (h : FenceLine.ofLine? line = none) :
    mendLines length (line :: rest) = line :: mendLines length rest := by
  have hstep := @FenceState.step_of_ofLine?_eq_none .outside line h
  rw [mendLines, FenceState.along, hstep, mendLine_of_not_fence (by rw [hstep])]
  rfl

/-- Lines inside a block stay as they are. -/
theorem along_mendLine_inside {s : FenceState} (ho : s.isOpen = true) {inside : List Text}
    (h : ∀ x ∈ inside, ¬ s.ClosedByLine x) : s.along (mendLine length) inside = inside := by
  rw [FenceState.along_inside _ ho h]
  refine (List.map_congr_left fun line hline => ?_).trans (List.map_id _)
  exact mendLine_of_not_fence (by rw [FenceState.step_inside ho (h line hline)])

theorem mendLines_unclosed {line : Text} {inside : List Text} {opener : FenceLine}
    (hopener : FenceLine.ofLine? line = some opener)
    (hinside : ∀ x ∈ inside, ¬ (FenceState.opened opener).ClosedByLine x) :
    mendLines length (line :: inside) = mendLine length .outside line :: inside := by
  rw [mendLines, FenceState.along, FenceState.step_opening hopener rfl, along_mendLine_inside rfl hinside]

theorem mendLines_closed {line closer : Text} {inside rest : List Text} {opener : FenceLine}
    (hopener : FenceLine.ofLine? line = some opener)
    (hinside : ∀ x ∈ inside, ¬ (FenceState.opened opener).ClosedByLine x)
    (hcloser : (FenceState.opened opener).ClosedByLine closer) :
    mendLines length (line :: (inside ++ closer :: rest)) =
      mendLine length .outside line ::
        (inside ++ mendLine length (.opened opener) closer :: mendLines length rest) := by
  rw [mendLines, FenceState.along, FenceState.step_opening hopener rfl, FenceState.along_append,
    along_mendLine_inside rfl hinside, FenceState.after_inside rfl hinside, FenceState.along,
    FenceState.step_closing rfl hcloser]
  rfl

/-- A line closes the block behind a new opener. -/
theorem closedByLine_mended {opener new : FenceLine} (hmended : opener.Reopens length new) (line : Text) :
    (FenceState.opened new).ClosedByLine line ↔
      ∃ run, FenceLine.ofLine? line = some run ∧ run.marker = tilde ∧
        opener.mendedLength length ≤ run.length ∧ opener.indent.length ≤ run.indent.length := by
  refine exists_congr fun run => and_congr_right fun _ => ?_
  rw [FenceState.closedBy_iff, ← hmended.mendedLength, ← hmended.indent, Int.ofNat_le]
  constructor
  · rintro ⟨-, hm, hl, hi⟩
    exact ⟨(Option.some.inj hm).symm.trans hmended.marker, hl, hi⟩
  · rintro ⟨hm, hl, hi⟩
    exact ⟨rfl, congrArg some (hmended.marker.trans hm.symm), hl, hi⟩

/-- The new closing line closes the block behind the new opener. -/
theorem closedByLine_mended_closer (hl : 3 ≤ length) {opener new : FenceLine}
    (hmended : opener.Reopens length new) {closer : Text} (hcloser : (FenceState.opened opener).ClosedByLine closer) :
    (FenceState.opened new).ClosedByLine (mendLine length (.opened opener) closer) ↔
      opener.mendedLength length = length := by
  obtain ⟨last, hlast, hlastIndent, hlastMarker, hlastLength⟩ := exists_mended_closer hl rfl hcloser
  have hle : length ≤ opener.mendedLength length := by
    unfold FenceLine.mendedLength
    split <;> omega
  rw [closedByLine_mended hmended, hlast]
  constructor
  · rintro ⟨run, hrun, -, hlong, -⟩
    cases hrun
    omega
  · intro hsame
    exact ⟨last, rfl, hlastMarker, by omega, hlastIndent⟩

/-! ## Fences stay fences -/

/-- The same lines are fences exactly if every block keeps its extent. The first block that does not is
closed too early or not where it was. -/
theorem fences_mendLines_iff (hl : 3 ≤ length) {lines : List Text} {blocks : List FencedBlock}
    (h : Blocked lines blocks) :
    FenceState.outside.fences (mendLines length lines) = FenceState.outside.fences lines ↔
      ∀ b ∈ blocks, b.Keeps length := by
  induction h with
  | nil => simp [mendLines, FenceState.along]
  | plain hnone _ ih =>
    rw [mendLines_plain hnone, FenceState.fences_cons, FenceState.fences_cons,
      FenceState.step_of_ofLine?_eq_none hnone, List.cons.injEq]
    exact (and_iff_right rfl).trans ih
  | @unclosed line inside opener hopener hinside =>
    obtain ⟨new, hnew, hmended⟩ := exists_mended_opener hl hopener
    rw [mendLines_unclosed hopener hinside, FenceState.fences_cons, FenceState.fences_cons,
      FenceState.step_opening hopener rfl, FenceState.step_opening hnew rfl, List.cons.injEq,
      (FenceState.fences_inside_iff rfl).2 hinside, FenceState.fences_inside_iff rfl, List.forall_mem_singleton]
    constructor
    · rintro ⟨-, hkept⟩
      exact ⟨fun x hx => mt (closedByLine_mended hmended x).2 (hkept x hx), by simp⟩
    · intro hkeeps
      exact ⟨rfl, fun x hx => mt (closedByLine_mended hmended x).1 (hkeeps.inside x hx)⟩
  | @closed line closer inside rest opener blocks hopener hinside hcloser _ ih =>
    obtain ⟨new, hnew, hmended⟩ := exists_mended_opener hl hopener
    -- on the old lines the scan reaches the closer inside the block, which is what the new ones must do too
    have hold : (FenceState.opened opener).fences (inside ++ closer :: rest) =
        List.replicate inside.length false ++ true :: FenceState.outside.fences rest :=
      (FenceState.fences_closed_iff rfl).2 ⟨hinside, hcloser, rfl⟩
    rw [mendLines_closed hopener hinside hcloser, FenceState.fences_cons, FenceState.fences_cons,
      FenceState.step_opening hopener rfl, FenceState.step_opening hnew rfl, List.cons.injEq, hold,
      FenceState.fences_closed_iff rfl, closedByLine_mended_closer hl hmended hcloser, ih,
      List.forall_mem_cons]
    constructor
    · rintro ⟨-, hkept, hsame, hrest⟩
      exact ⟨⟨fun x hx => mt (closedByLine_mended hmended x).2 (hkept x hx), fun _ => hsame⟩, hrest⟩
    · rintro ⟨hkeeps, hrest⟩
      exact ⟨rfl, fun x hx => mt (closedByLine_mended hmended x).1 (hkeeps.inside x hx),
        hkeeps.closer rfl, hrest⟩

/-! ## Roles stay roles -/

/-- Where the same lines are fences all lines have the same roles: what is not a fence stays as it is. -/
theorem map_role_classifyFrom {s s' : LineScan} (ha : s'.above = s.above) (ho : s'.fence.isOpen = s.fence.isOpen)
    (number : Nat) {lines : List Text}
    (h : s'.fence.fences (s.fence.along (mendLine length) lines) = s.fence.fences lines) :
    (classifyFrom s' number (s.fence.along (mendLine length) lines)).map (·.role) =
      (classifyFrom s number lines).map (·.role) := by
  induction lines generalizing s s' number with
  | nil => rfl
  | cons line rest ih =>
    rw [FenceState.along, FenceState.fences_cons, FenceState.fences_cons, List.cons.injEq] at h
    obtain ⟨hflag, hrest⟩ := h
    rw [FenceState.along, classifyFrom_cons, classifyFrom_cons, List.map_cons, List.map_cons]
    generalize hline : mendLine length s.fence line = line' at hflag hrest ⊢
    have hrole : s'.role line' = s.role line := by
      rw [s.role_eq, s'.role_eq, hflag]
      cases hf : (s.fence.step line).2 with
      | true => rfl
      | false => rw [← hline, mendLine_of_not_fence hf, ho, ha]
    have hbelow := @ih (s.next line) (s'.next line') (congrArg some hrole)
      (by simp only [LineScan.next, FenceState.isOpen_step, hflag, ho]) (number + 1) hrest
    refine List.cons_eq_cons.2 ⟨?_, hbelow⟩
    -- text becomes a heading by an underline below it, so the role of this line hangs on the next one
    have hhead := congrArg List.head? hbelow
    rw [List.head?_map, List.head?_map] at hhead
    cases hf : (s.fence.step line).2 with
    | true =>
      have hfence := (s.role_eq_fence_iff line).2 hf
      exact ((settled_isFenced s' (number + 1) line' _ .fence rfl).2 (hrole.trans hfence)).trans
        ((settled_isFenced s (number + 1) line rest .fence rfl).2 hfence).symm
    | false =>
      have hsame : line' = line := hline.symm.trans (mendLine_of_not_fence hf)
      rw [hsame] at hrole hhead ⊢
      rw [hrole]
      exact congrArg ((s.role line).settled line) hhead

theorem map_kind_classifyFrom (s : LineScan) (number : Nat) (lines : List Text) :
    (classifyFrom s number lines).map (fun line => line.role.kind == .fence) = s.fence.fences lines := by
  induction lines generalizing s number with
  | nil => rfl
  | cons line rest ih =>
    rw [classifyFrom_cons, List.map_cons, ih, FenceState.fences_cons]
    refine List.cons_eq_cons.2 ⟨?_, rfl⟩
    rw [Bool.eq_iff_iff, ← s.role_eq_fence_iff line, ← settled_isFenced s (number + 1) line rest .fence rfl]
    generalize (s.role line).settled line _ = role
    cases role <;> simp [LineRole.kind]

theorem kinds_mendLines_iff (lines : List Text) :
    (classify (mendLines length lines)).map (·.role.kind) = (classify lines).map (·.role.kind) ↔
      FenceState.outside.fences (mendLines length lines) = FenceState.outside.fences lines := by
  constructor
  · intro h
    have hmap := congrArg (List.map (· == LineKind.fence)) h
    rw [List.map_map, List.map_map] at hmap
    exact (map_kind_classifyFrom .start 1 _).symm.trans (hmap.trans (map_kind_classifyFrom .start 1 lines))
  · intro h
    have hroles := congrArg (List.map LineRole.kind) (@map_role_classifyFrom length .start .start rfl rfl 1 lines h)
    rw [List.map_map, List.map_map] at hroles
    exact hroles

/-! ## Nothing left to report -/

/-- A line that is no fence, or a right one, is passed by. -/
theorem findingsFrom_cons_of_right {s : FenceState} {line : Text} (number : Nat) (rest : List Text)
    (h : (s.step line).2 = true → ∀ run, FenceLine.ofLine? line = some run → fault? length run = none) :
    findingsFrom length s number (line :: rest) = findingsFrom length (s.step line).1 (number + 1) rest := by
  have hfound : (s.step line).2 = true → finding? length number line (!s.isOpen) = .ok none := by
    intro hf
    unfold finding?
    cases hrun : FenceLine.ofLine? line with
    | none => rfl
    | some run => simp only [h hf run hrun]
  have hpass : (do
      let found ← (.ok none : Except CheckFailure (Option Finding))
      let more ← findingsFrom length (s.step line).1 (number + 1) rest
      return found.toList ++ more) = findingsFrom length (s.step line).1 (number + 1) rest := by
    cases findingsFrom length (s.step line).1 (number + 1) rest <;> rfl
  by_cases hf : (s.step line).2 = true
  · simp only [findingsFrom, hf, if_true, hfound hf]
    exact hpass
  · simp only [findingsFrom, hf, Bool.false_eq_true, if_false]
    exact hpass

theorem findingsFrom_inside {s : FenceState} (ho : s.isOpen = true) {inside : List Text} (number : Nat)
    (rest : List Text) (h : ∀ x ∈ inside, ¬ s.ClosedByLine x) :
    findingsFrom length s number (inside ++ rest) = findingsFrom length s (number + inside.length) rest := by
  induction inside generalizing number with
  | nil => rfl
  | cons line more ih =>
    obtain ⟨hline, hmore⟩ := List.forall_mem_cons.1 h
    have hstep := FenceState.step_inside ho hline
    rw [List.cons_append, findingsFrom_cons_of_right number _ (fun hf => by rw [hstep] at hf; cases hf), hstep,
      ih (number + 1) hmore, List.length_cons, Nat.add_right_comm, Nat.add_assoc]

/-- Blocks that keep their extent leave nothing to report if their openers get the right length. -/
theorem findingsFrom_mendLines (hl : 3 ≤ length) {lines : List Text} {blocks : List FencedBlock}
    (h : Blocked lines blocks) (hkeeps : ∀ b ∈ blocks, b.Keeps length)
    (hright : ∀ b ∈ blocks, b.opener.mendedLength length = length) (number : Nat) :
    findingsFrom length .outside number (mendLines length lines) = .ok [] := by
  have hfault : ∀ {line : Text} {run : FenceLine}, FenceLine.ofLine? line = some run → run.marker = tilde →
      (run.length : Int) = length → ∀ run', FenceLine.ofLine? line = some run' → fault? length run' = none := by
    rintro line run hrun hm hlen run' hrun'
    rw [hrun] at hrun'
    cases hrun'
    exact (fault?_eq_none (.inr hm)).2 ⟨hm, hlen⟩
  induction h generalizing number with
  | nil => rfl
  | plain hnone _ ih =>
    have hstep := @FenceState.step_of_ofLine?_eq_none .outside _ hnone
    rw [mendLines_plain hnone, findingsFrom_cons_of_right number _ (fun hf => by rw [hstep] at hf; cases hf), hstep]
    exact ih hkeeps hright (number + 1)
  | @unclosed line inside opener hopener hinside =>
    obtain ⟨new, hnew, hmended⟩ := exists_mended_opener hl hopener
    obtain ⟨hkeep, -⟩ := List.forall_mem_cons.1 hkeeps
    obtain ⟨hsame, -⟩ := List.forall_mem_cons.1 hright
    rw [mendLines_unclosed hopener hinside,
      findingsFrom_cons_of_right number _ (fun _ => hfault hnew hmended.marker (hmended.mendedLength.trans hsame)),
      FenceState.step_opening hnew rfl, ← List.append_nil inside, findingsFrom_inside rfl (number + 1) []
        fun x hx => mt (closedByLine_mended hmended x).1 (hkeep.inside x hx)]
    rfl
  | @closed line closer inside rest opener blocks hopener hinside hcloser _ ih =>
    obtain ⟨new, hnew, hmended⟩ := exists_mended_opener hl hopener
    obtain ⟨last, hlast, -, hlastMarker, hlastLength⟩ := exists_mended_closer hl rfl hcloser
    obtain ⟨hkeep, hkeeps⟩ := List.forall_mem_cons.1 hkeeps
    obtain ⟨hsame, hright⟩ := List.forall_mem_cons.1 hright
    have hcloses := (closedByLine_mended_closer hl hmended hcloser).2 hsame
    rw [mendLines_closed hopener hinside hcloser,
      findingsFrom_cons_of_right number _ (fun _ => hfault hnew hmended.marker (hmended.mendedLength.trans hsame)),
      FenceState.step_opening hnew rfl, findingsFrom_inside rfl (number + 1) _
        fun x hx => mt (closedByLine_mended hmended x).1 (hkeep.inside x hx),
      findingsFrom_cons_of_right _ _ (fun _ => hfault hlast hlastMarker hlastLength),
      FenceState.step_closing rfl hcloses]
    exact ih hkeeps hright _

/-! ## The edits of the rule -/

/-- The rule on fences alone. -/
def mending (length : Int) : Mending := ⟨none, some length, none⟩

theorem lines_mending {x : Site} (hok : (check length x).isOk = true)
    (hfence : x.line.role = .fence ↔ (x.fence.step x.line.text).2 = true) :
    (mending length).lines x = [mendLine length x.fence x.line.text] := by
  have hedits : (mending length).edits x = ((check length).edit? x).toList := by
    rw [Mending.edits_eq]
    simp [mending]
  rw [Mending.lines, hedits]
  cases hfound : check length x with
  | error e => rw [hfound] at hok; cases hok
  | ok found =>
    rcases found with _ | found
    · have hnone := check_eq_none.1 hfound
      have hedit : (check length).edit? x = none := by rw [SiteCheck.edit?, hfound]
      have hsame : mendLine length x.fence x.line.text = x.line.text := by
        unfold mendLine
        split
        · rfl
        · rename_i run hrun
          cases hf : (x.fence.step x.line.text).2 with
          | false => rfl
          | true => rw [hnone (hfence.2 hf) run hrun]; rfl
      rw [hedit, hsame]
      rfl
    · obtain ⟨run, detail, hrole, hrun, hfault, hedit⟩ := check_eq_some hfound
      have hmended : mendLine length x.fence x.line.text = mended length run (!x.fence.isOpen) := by
        simp only [mendLine, hrun, hfence.1 hrole, hfault, Option.isSome_some, Bool.and_self, if_true]
      rw [SiteCheck.edit?_eq_some.2 ⟨found, hfound, hedit⟩, hmended]
      exact editedLine_replace _ _ _

theorem flatMap_mending (s : LineScan) (number : Nat) (blanks : Option Nat) (lines : List Text)
    (hok : ∀ x ∈ sitesFrom s.fence blanks (classifyFrom s number lines), (check length x).isOk = true) :
    (sitesFrom s.fence blanks (classifyFrom s number lines)).flatMap (mending length).lines =
      s.fence.along (mendLine length) lines := by
  induction lines generalizing s number blanks with
  | nil => rfl
  | cons line rest ih =>
    rw [sitesFrom_cons] at hok ⊢
    obtain ⟨hline, hrest⟩ := List.forall_mem_cons.1 hok
    have hfence := (settled_isFenced s (number + 1) line rest .fence rfl).trans (s.role_eq_fence_iff line)
    rw [List.flatMap_cons, ih (s.next line) _ _ hrest, lines_mending hline hfence]
    rfl

/-- Applying the edits of the rule writes each fence anew. -/
theorem applyEdits_issues {lines : List Text} {o : Options} {issues : List Issue}
    (h : fenceRule.issues (.ofLines lines) o = .ok issues) :
    applyEdits lines (issues.filterMap (·.edit)) = mendLines (o.int "fence_length" 4) lines := by
  have hmends : (mending (o.int "fence_length" 4)).MendsBy lines issues :=
    Mending.mendsBy_of_issues rfl (fenceRule_checksSites o) h
  rw [hmends.applyEdits]
  exact flatMap_mending .start 1 none lines ((fenceRule_checksSites o).edits_of_issues h).1

/-- The rule can be carried out if so many tildes can be counted. -/
theorem issues_isOk {o : Options} (hl : 3 ≤ o.int "fence_length" 4) (hr : o.int "fence_length" 4 < countLimit)
    (lines : List Text) : (fenceRule.issues (.ofLines lines) o).isOk = true :=
  (fenceRule_checksSites o).issues_isOk.2 fun x _ => check_isOk hl hr x

end FenceStyle

/-! ## Exactly when the structure stays -/

/-- Writing the fences of a document anew keeps the kind of every line exactly if each fenced block
keeps its extent: no line inside would close it behind its new opener, and if a line closes it, the new
opener is as long as the style says. If all openers are, the rule finds nothing more. -/
theorem FenceStyle.kinds_fixed_iff (lines : List Text) (o : Options) (hl : 3 ≤ o.int "fence_length" 4) :
    let length := o.int "fence_length" 4
    (length < countLimit → (fenceRule.issues (.ofLines lines) o).isOk = true) ∧
      ∀ issues, fenceRule.issues (.ofLines lines) o = .ok issues →
        let fixed := applyEdits lines (issues.filterMap (·.edit))
        let blocks := fencedBlocks lines
        ((classify fixed).map (·.role.kind) = (classify lines).map (·.role.kind) ↔
            ∀ b ∈ blocks, b.Keeps length) ∧
          ((∀ b ∈ blocks, b.Keeps length ∧ b.opener.mendedLength length = length) →
            fenceRule.issues (.ofLines fixed) o = .ok []) := by
  intro length
  refine ⟨fun hr => issues_isOk hl hr lines, fun issues hissues => ?_⟩
  intro fixed blocks
  have hfixed : fixed = mendLines length lines := applyEdits_issues hissues
  have hblocked : Blocked lines blocks := blocked_fencedBlocks lines
  rw [hfixed]
  constructor
  · rw [kinds_mendLines_iff, fences_mendLines_iff hl hblocked]
  · intro hright
    have hnone := findingsFrom_mendLines hl hblocked (fun b hb => (hright b hb).1) (fun b hb => (hright b hb).2) 1
    show (findingsFrom length .outside 1 (mendLines length lines)).map _ = _
    rw [hnone]
    rfl

/-- A run of backticks becomes one of tildes, and the shorter run of tildes inside still closes nothing. -/
theorem kinds_fixed_of_backticks :
    3 ≤ Options.int [] "fence_length" 4 ∧
      let lines := ["```c".toList, "~~~".toList, "```".toList]
      ∃ issues, fenceRule.issues (.ofLines lines) [] = .ok issues ∧
        let fixed := applyEdits lines (issues.filterMap (·.edit))
        (classify fixed).map (·.role.kind) = [.fence, .code, .fence] ∧
          fenceRule.issues (.ofLines fixed) [] = .ok [] := by
  have hl : 3 ≤ Options.int [] "fence_length" 4 := by decide
  refine ⟨hl, ?_⟩
  intro lines
  obtain ⟨hok, hfixed⟩ := FenceStyle.kinds_fixed_iff lines [] hl
  cases hissues : fenceRule.issues (.ofLines lines) [] with
  | error e =>
    have hcan := hok (by decide)
    rw [hissues] at hcan
    cases hcan
  | ok issues =>
    obtain ⟨hkinds, hquiet⟩ := hfixed issues hissues
    have hblocks : fencedBlocks lines = [⟨⟨[], backtick, 3, ['c']⟩, ["~~~".toList], some "```".toList⟩] := by
      cbv
    have hkeeps : ∀ b ∈ fencedBlocks lines, b.Keeps (Options.int [] "fence_length" 4) ∧
        b.opener.mendedLength (Options.int [] "fence_length" 4) = Options.int [] "fence_length" 4 := by
      rw [hblocks]
      decide
    exact ⟨issues, rfl, (hkinds.2 fun b hb => (hkeeps b hb).1).trans (by decide), hquiet hkeeps⟩

end MarkdownStyle
