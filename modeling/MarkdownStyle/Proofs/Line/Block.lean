/-
The fenced blocks of a document, and the fence scan over one of them. A block is told from its lines
alone: the first fence run opens it, and the first line behind that which closes it ends it.
-/
import MarkdownStyle.Proofs.Line.Fence

namespace MarkdownStyle

/-! ## Scans along lines -/

namespace FenceState

variable {α : Type} {s : FenceState}

/-- What is told of each line in turn, by the line and the state of the scan before it. -/
def along (tell : FenceState → Text → α) (s : FenceState) : List Text → List α
  | [] => []
  | line :: rest => tell s line :: along tell (s.step line).1 rest

theorem along_append (tell : FenceState → Text → α) (s : FenceState) (above below : List Text) :
    s.along tell (above ++ below) = s.along tell above ++ (s.after above).along tell below := by
  induction above generalizing s with
  | nil => rfl
  | cons line rest ih => rw [List.cons_append, along, ih, along, after_cons, List.cons_append]

theorem length_along (tell : FenceState → Text → α) (s : FenceState) (lines : List Text) :
    (s.along tell lines).length = lines.length := by
  induction lines generalizing s with
  | nil => rfl
  | cons line rest ih => rw [along, List.length_cons, List.length_cons, ih]

/-- Lines that do not close the open block leave the scan inside it. -/
theorem after_inside (ho : s.isOpen = true) {inside : List Text} (h : ∀ x ∈ inside, ¬ s.ClosedByLine x) :
    s.after inside = s := by
  induction inside with
  | nil => rfl
  | cons line rest ih =>
    obtain ⟨hline, hrest⟩ := List.forall_mem_cons.1 h
    rw [after_cons, step_inside ho hline, ih hrest]

theorem along_inside (tell : FenceState → Text → α) (ho : s.isOpen = true) {inside : List Text}
    (h : ∀ x ∈ inside, ¬ s.ClosedByLine x) : s.along tell inside = inside.map (tell s) := by
  induction inside with
  | nil => rfl
  | cons line rest ih =>
    obtain ⟨hline, hrest⟩ := List.forall_mem_cons.1 h
    rw [along, step_inside ho hline, ih hrest, List.map_cons]

/-- Which of the lines open or close a block. -/
def fences (s : FenceState) (lines : List Text) : List Bool := s.along (fun s line => (s.step line).2) lines

theorem fences_cons (s : FenceState) (line : Text) (rest : List Text) :
    s.fences (line :: rest) = (s.step line).2 :: (s.step line).1.fences rest := rfl

/-- No fence stands among lines inside a block exactly if none of them closes it. -/
theorem fences_inside_iff (ho : s.isOpen = true) {inside : List Text} :
    s.fences inside = List.replicate inside.length false ↔ ∀ x ∈ inside, ¬ s.ClosedByLine x := by
  constructor
  · intro h
    induction inside with
    | nil => simp
    | cons line rest ih =>
      rw [fences_cons, List.length_cons, List.replicate_succ, List.cons.injEq] at h
      obtain ⟨hline, hrest⟩ := h
      have hstep := step_of_not_fence hline
      rw [hstep] at hrest
      refine List.forall_mem_cons.2 ⟨fun hclosed => ?_, ih hrest⟩
      rw [step_closing ho hclosed] at hline
      cases hline
  · intro h
    rw [fences, along_inside _ ho h, List.eq_replicate_iff]
    refine ⟨List.length_map _, fun flag hflag => ?_⟩
    obtain ⟨line, hline, rfl⟩ := List.mem_map.1 hflag
    rw [step_inside ho (h line hline)]

/-- The scan meets no fence before this line, and then closes the block, exactly if this line closes
it and none before does. -/
theorem fences_closed_iff (ho : s.isOpen = true) {inside rest : List Text} {closer : Text} {flags : List Bool} :
    s.fences (inside ++ closer :: rest) = List.replicate inside.length false ++ true :: flags ↔
      (∀ x ∈ inside, ¬ s.ClosedByLine x) ∧ s.ClosedByLine closer ∧ outside.fences rest = flags := by
  have happend : s.fences (inside ++ closer :: rest) = s.fences inside ++ (s.after inside).fences (closer :: rest) :=
    along_append _ s inside (closer :: rest)
  have hlength : (s.fences inside).length = (List.replicate inside.length false).length := by
    rw [fences, length_along, List.length_replicate]
  rw [happend]
  constructor
  · intro h
    obtain ⟨hinside, hbelow⟩ := List.append_inj h hlength
    have hnone := (fences_inside_iff ho).1 hinside
    rw [after_inside ho hnone, fences_cons, List.cons.injEq] at hbelow
    have hcloser := (step_of_open ho).1 hbelow.1
    rw [step_closing ho hcloser] at hbelow
    exact ⟨hnone, hcloser, hbelow.2⟩
  · rintro ⟨hnone, hcloser, hrest⟩
    rw [(fences_inside_iff ho).2 hnone, after_inside ho hnone, fences_cons, step_closing ho hcloser, hrest]

end FenceState

/-! ## Fenced blocks -/

/-- A fenced block: its opening fence, the lines inside, and the line that closes it. A block without
such a line runs to the end of the document. -/
structure FencedBlock where
  opener : FenceLine
  inside : List Text
  closer : Option Text

/-- The fenced blocks of lines: each begins at the first fence run behind the block before it, and ends
at the first line behind that which closes it. -/
def fencedBlocks : List Text → List FencedBlock
  | [] => []
  | line :: rest =>
    match FenceLine.ofLine? line with
    | none => fencedBlocks rest
    | some opener =>
      let staysInside (line : Text) : Bool := !decide ((FenceState.opened opener).ClosedByLine line)
      ⟨opener, rest.takeWhile staysInside, (rest.dropWhile staysInside).head?⟩ ::
        fencedBlocks (rest.dropWhile staysInside).tail
termination_by lines => lines.length
decreasing_by
  · simp
  · simp only [List.length_tail, List.length_cons]
    exact Nat.lt_succ_of_le ((Nat.sub_le _ _).trans (List.dropWhile_sublist _).length_le)

/-- Lines taken apart into fenced blocks and what stands between them. -/
inductive Blocked : List Text → List FencedBlock → Prop
  | nil : Blocked [] []
  | plain {line : Text} {rest : List Text} {blocks : List FencedBlock} : FenceLine.ofLine? line = none →
      Blocked rest blocks → Blocked (line :: rest) blocks
  | unclosed {line : Text} {inside : List Text} {opener : FenceLine} : FenceLine.ofLine? line = some opener →
      (∀ x ∈ inside, ¬ (FenceState.opened opener).ClosedByLine x) →
      Blocked (line :: inside) [⟨opener, inside, none⟩]
  | closed {line closer : Text} {inside rest : List Text} {opener : FenceLine} {blocks : List FencedBlock} :
      FenceLine.ofLine? line = some opener → (∀ x ∈ inside, ¬ (FenceState.opened opener).ClosedByLine x) →
      (FenceState.opened opener).ClosedByLine closer → Blocked rest blocks →
      Blocked (line :: (inside ++ closer :: rest)) (⟨opener, inside, some closer⟩ :: blocks)

theorem blocked_fencedBlocks (lines : List Text) : Blocked lines (fencedBlocks lines) := by
  fun_induction fencedBlocks lines with
  | case1 => exact .nil
  | case2 line rest hnone ih => exact .plain hnone ih
  | case3 line rest opener hopener staysInside ih =>
    have hinside : ∀ x ∈ rest.takeWhile staysInside, ¬ (FenceState.opened opener).ClosedByLine x := fun x hx => by
      simpa [staysInside] using List.all_eq_true.1 List.all_takeWhile x hx
    have hrest : rest.takeWhile staysInside ++ rest.dropWhile staysInside = rest := List.takeWhile_append_dropWhile
    cases hbelow : rest.dropWhile staysInside with
    | nil =>
      rw [hbelow, List.append_nil] at hrest
      rw [hrest] at hinside ⊢
      rw [List.tail_nil, fencedBlocks]
      exact .unclosed hopener hinside
    | cons closer below =>
      have hcloser : (FenceState.opened opener).ClosedByLine closer := by
        have := List.head?_dropWhile_not staysInside rest
        rw [hbelow] at this
        simpa [staysInside] using this
      rw [hbelow] at ih hrest
      conv_lhs => rw [← hrest]
      exact .closed hopener hinside hcloser ih

end MarkdownStyle
