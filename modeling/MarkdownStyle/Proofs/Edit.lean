/-
Applying edits one after the other, from the bottom of a document to its top, is the same as giving
each line its own edits. The edits are sorted by line, so those of one line come together; when
their turn comes everything above the line is untouched, and everything below it is final.
-/
import MarkdownStyle.Edit
import Mathlib.Tactic

namespace MarkdownStyle

/-! ## A stable sort -/

/-- Sorting keeps elements in their order that may stand in any order. -/
theorem filter_mergeSort {α : Type} {le : α → α → Bool} (trans : ∀ a b c, le a b → le b c → le a c)
    (total : ∀ a b, le a b || le b a) {p : α → Bool} (hp : ∀ a b, p a → p b → le a b) (xs : List α) :
    (xs.mergeSort le).filter p = xs.filter p := by
  have hsorted : (xs.filter p).Pairwise (fun a b => le a b = true) := by
    rw [List.pairwise_filter]
    exact List.Pairwise.imp_of_mem (fun _ _ _ ha hb => hp _ _ ha hb) (List.pairwise_of_forall fun _ _ => trivial)
  have hsub : List.Sublist (xs.filter p) ((xs.mergeSort le).filter p) := by
    have := (List.sublist_mergeSort trans total hsorted List.filter_sublist).filter p
    rwa [List.filter_filter, show (fun a => p a && p a) = p by simp] at this
  exact (hsub.eq_of_length ((List.mergeSort_perm xs le).filter p).length_eq.symm).symm

/-- In a sorted list the elements that pass a test stand in front if none of the others may stand
before one of them. -/
theorem eq_filter_append_filter {α : Type} {le : α → α → Bool} {p : α → Bool} :
    ∀ {xs : List α}, xs.Pairwise (fun a b => le a b = true) →
      (∀ a ∈ xs, ∀ b ∈ xs, p a = false → p b = true → le a b = false) →
      xs = xs.filter p ++ xs.filter (fun a => !p a)
  | [], _, _ => rfl
  | a :: xs, h, hp => by
    rw [List.pairwise_cons] at h
    have hrest := eq_filter_append_filter h.2 fun b hb c hc =>
      hp b (List.mem_cons_of_mem _ hb) c (List.mem_cons_of_mem _ hc)
    cases ha : p a with
    | true => rw [List.filter_cons_of_pos ha, List.filter_cons_of_neg (by simp [ha]), List.cons_append, ← hrest]
    | false =>
      have hnone : xs.filter p = [] := by
        rw [List.filter_eq_nil_iff]
        intro b hb hpb
        have hle := hp a (List.mem_cons_self ..) b (List.mem_cons_of_mem _ hb) ha hpb
        rw [h.1 b hb] at hle
        cases hle
      rw [hnone, List.nil_append] at hrest
      rw [List.filter_cons_of_neg (by simp [ha]), List.filter_cons_of_pos (by simp [ha]), hnone,
        List.nil_append, ← hrest]

/-! ## The order of edits -/

theorem LineEdit.notAfter_trans (a b c : LineEdit) (hab : a.notAfter b = true) (hbc : b.notAfter c = true) :
    a.notAfter c = true := by
  unfold LineEdit.notAfter at *
  simp only [Bool.or_eq_true, Bool.and_eq_true, decide_eq_true_eq, beq_iff_eq] at *
  rcases hab with hab | ⟨hab, ha⟩ <;> rcases hbc with hbc | ⟨hbc, hb⟩
  · exact .inl (by omega)
  · exact .inl (by omega)
  · exact .inl (by omega)
  · refine .inr ⟨by omega, ?_⟩
    cases hr : b.replacement <;> simp_all

theorem LineEdit.notAfter_total (a b : LineEdit) : (a.notAfter b || b.notAfter a) = true := by
  unfold LineEdit.notAfter
  rcases lt_trichotomy a.line b.line with h | h | h
  · simp [h]
  · rcases a.replacement with _ | _ <;> rcases b.replacement with _ | _ <;> simp [h]
  · simp [h]

theorem LineEdit.not_notAfter_of_lt {a b : LineEdit} (h : a.line < b.line) : a.notAfter b = false := by
  unfold LineEdit.notAfter
  simp only [Bool.or_eq_false_iff, decide_eq_false_iff_not, Bool.and_eq_false_iff, beq_eq_false_iff_ne]
  exact ⟨by omega, .inl (by omega)⟩

/-- On one line an insertion does not come before a replacement. -/
theorem LineEdit.not_notAfter_of_insertion {a b : LineEdit} (hl : a.line = b.line)
    (ha : a.replacement.isSome = false) (hb : b.replacement.isSome = true) : a.notAfter b = false := by
  unfold LineEdit.notAfter
  simp [hl, ha, Option.isNone_eq_false_iff.2 hb]

/-! ## The edits of one line -/

/-- What a line becomes under its edits: the first replacement counts, and each insertion goes in
front of what is already there. -/
def editedLine (edits : List LineEdit) (line : Text) : List Text :=
  (edits.filter (·.replacement.isNone)).reverse.flatMap (·.inserted) ++
    match edits.find? (·.replacement.isSome) with
    | none => [line]
    | some e => e.inserted ++ [e.replacement.getD line]

theorem editedLine_nil (line : Text) : editedLine [] line = [line] := rfl

theorem editedLine_replace (number : Int) (text line : Text) :
    editedLine [.replace number text] line = [text] := rfl

theorem editedLine_insert (number : Int) (texts : List Text) (line : Text) :
    editedLine [.insert number texts] line = texts ++ [line] := by
  simp [editedLine, LineEdit.insert]

/-- Only the order among insertions and the order among replacements matter. -/
theorem editedLine_congr {edits other : List LineEdit} (line : Text)
    (hn : edits.filter (·.replacement.isNone) = other.filter (·.replacement.isNone))
    (hs : edits.filter (·.replacement.isSome) = other.filter (·.replacement.isSome)) :
    editedLine edits line = editedLine other line := by
  unfold editedLine
  rw [hn, ← List.head?_filter, ← List.head?_filter, hs]

theorem editedLine_ne_nil (edits : List LineEdit) (line : Text) : editedLine edits line ≠ [] := by
  unfold editedLine
  split <;> simp

namespace Patch

variable {above done : List Text} {replaced : List Int} {edit : LineEdit}

/-- An edit outside the document changes nothing. -/
theorem apply_outside {p : Patch} (h : edit.line < 1 ∨ (p.lines.length : Int) < edit.line) :
    p.apply edit = p := by
  unfold apply
  rw [if_pos (by simpa using h)]

theorem apply_insertion {mid : Text} (hl : edit.line = above.length + 1) (hr : edit.replacement = none) :
    (⟨above ++ mid :: done, replaced⟩ : Patch).apply edit =
      ⟨above ++ (edit.inserted ++ mid :: done), replaced⟩ := by
  have hin : ¬ ((edit.line < 1 || ((above ++ mid :: done).length : Int) < edit.line) = true) := by
    simp [hl]
  have hindex : (edit.line - 1).toNat = above.length := by omega
  unfold apply
  simp only [if_neg hin, hindex, hr, insertAt, List.take_left, List.drop_left, List.append_assoc]

theorem apply_replacement {line text : Text} (hl : edit.line = above.length + 1)
    (hr : edit.replacement = some text) (hn : edit.line ∉ replaced) :
    (⟨above ++ line :: done, replaced⟩ : Patch).apply edit =
      ⟨above ++ (edit.inserted ++ text :: done), edit.line :: replaced⟩ := by
  have hin : ¬ ((edit.line < 1 || ((above ++ line :: done).length : Int) < edit.line) = true) := by
    simp [hl]
  have hindex : (edit.line - 1).toNat = above.length := by omega
  have hset : (above ++ line :: done).set above.length text = above ++ text :: done := by simp
  unfold apply
  simp only [if_neg hin, hindex, hr, List.contains_iff_mem, hn, if_false, hset, insertAt, List.take_left,
    List.drop_left, List.append_assoc]

theorem apply_second_replacement {p : Patch} (hr : edit.replacement.isSome = true) (hm : edit.line ∈ p.replaced) :
    p.apply edit = p := by
  obtain ⟨text, ht⟩ := Option.isSome_iff_exists.1 hr
  unfold apply
  split
  · rfl
  · simp [ht, hm]

/-- Insertions in front of a line stack up, the last one on top. -/
theorem foldl_insertions {edits : List LineEdit} {mid : List Text} (hmid : mid ≠ [])
    (h : ∀ e ∈ edits, e.line = above.length + 1 ∧ e.replacement = none) :
    edits.foldl apply ⟨above ++ (mid ++ done), replaced⟩ =
      ⟨above ++ (edits.reverse.flatMap (·.inserted) ++ (mid ++ done)), replaced⟩ := by
  induction edits generalizing mid with
  | nil => rfl
  | cons edit edits ih =>
    obtain ⟨hl, hr⟩ := h edit (List.mem_cons_self ..)
    rcases mid with _ | ⟨text, mid⟩
    · exact absurd rfl hmid
    rw [List.foldl_cons, List.cons_append, apply_insertion hl hr]
    have := @ih (edit.inserted ++ text :: mid) (by simp) fun e he => h e (List.mem_cons_of_mem _ he)
    rw [List.append_assoc, List.cons_append] at this
    rw [this]
    simp

theorem foldl_second_replacements {edits : List LineEdit} {p : Patch}
    (h : ∀ e ∈ edits, e.replacement.isSome = true ∧ e.line ∈ p.replaced) : edits.foldl apply p = p := by
  induction edits with
  | nil => rfl
  | cons edit edits ih =>
    obtain ⟨hr, hm⟩ := h edit (List.mem_cons_self ..)
    rw [List.foldl_cons, apply_second_replacement hr hm, ih fun e he => h e (List.mem_cons_of_mem _ he)]

/-- The turn of one line, replacements first. -/
theorem foldl_turn {edits : List LineEdit} {line : Text} (hl : ∀ e ∈ edits, e.line = above.length + 1)
    (hsort : edits.Pairwise (fun a b => a.notAfter b = true)) (hn : (above.length + 1 : Int) ∉ replaced) :
    ∃ replaced', edits.foldl apply ⟨above ++ line :: done, replaced⟩ =
        ⟨above ++ (editedLine edits line ++ done), replaced'⟩ ∧
      ∀ number ∈ replaced', number = above.length + 1 ∨ number ∈ replaced := by
  have hnot : ∀ e : LineEdit, (!e.replacement.isSome) = e.replacement.isNone := by
    intro e; cases e.replacement <;> rfl
  have hsplit := eq_filter_append_filter (p := (·.replacement.isSome)) hsort fun a ha b hb =>
    LineEdit.not_notAfter_of_insertion ((hl a ha).trans (hl b hb).symm)
  simp only [hnot] at hsplit
  have hinsertions : ∀ e ∈ edits.filter (·.replacement.isNone), e.line = above.length + 1 ∧ e.replacement = none := by
    intro e he
    rw [List.mem_filter, Option.isNone_iff_eq_none] at he
    exact ⟨hl e he.1, he.2⟩
  have hfind : edits.find? (·.replacement.isSome) = (edits.filter (·.replacement.isSome)).head? := by
    rw [List.head?_filter]
  -- without a replacement the insertions stack up on the line, else on what replaces it
  cases hreps : edits.filter (·.replacement.isSome) with
  | nil =>
    refine ⟨replaced, ?_, fun number h => .inr h⟩
    rw [hreps] at hfind
    rw [hreps, List.nil_append] at hsplit
    unfold editedLine
    rw [hfind, List.append_assoc]
    conv_lhs => rw [hsplit]
    exact foldl_insertions (List.cons_ne_nil line []) hinsertions
  | cons first others =>
    have hmem : ∀ e ∈ first :: others, e.line = above.length + 1 ∧ e.replacement.isSome = true := by
      intro e he
      rw [← hreps, List.mem_filter] at he
      exact ⟨hl e he.1, he.2⟩
    obtain ⟨hfirst, hsome⟩ := hmem first (List.mem_cons_self ..)
    obtain ⟨text, htext⟩ := Option.isSome_iff_exists.1 hsome
    refine ⟨first.line :: replaced, ?_, ?_⟩
    · have hothers : ∀ lines, others.foldl apply ⟨lines, first.line :: replaced⟩ = ⟨lines, first.line :: replaced⟩ :=
        fun lines => foldl_second_replacements fun e he =>
          have ⟨hline, hsome⟩ := hmem e (List.mem_cons_of_mem _ he)
          ⟨hsome, List.mem_cons.2 (.inl (hline.trans hfirst.symm))⟩
      rw [hreps] at hfind hsplit
      unfold editedLine
      rw [hfind]
      conv_lhs => rw [hsplit]
      rw [List.foldl_append, List.foldl_cons, apply_replacement hfirst htext (by rwa [hfirst]), hothers]
      have hstack := @foldl_insertions above done (first.line :: replaced) _
        (first.inserted ++ [text]) (by simp) hinsertions
      simpa [htext] using hstack
    · intro number hnumber
      rcases List.mem_cons.1 hnumber with rfl | h
      · exact .inl hfirst
      · exact .inr h

theorem foldl_apply_outside {edits : List LineEdit} {p : Patch}
    (h : ∀ e ∈ edits, e.line < 1 ∨ (p.lines.length : Int) < e.line) : edits.foldl apply p = p := by
  induction edits with
  | nil => rfl
  | cons edit edits ih =>
    rw [List.foldl_cons, apply_outside (h edit (List.mem_cons_self ..)),
      ih fun e he => h e (List.mem_cons_of_mem _ he)]

/-- From the bottom to the top every line gets its own edits. -/
theorem foldl_apply {edits : List LineEdit} (above done : List Text) (replaced : List Int)
    (hsort : edits.Pairwise (fun a b => a.notAfter b = true)) (hl : ∀ e ∈ edits, e.line ≤ above.length)
    (hn : ∀ number ∈ replaced, (above.length : Int) < number) :
    (edits.foldl apply ⟨above ++ done, replaced⟩).lines =
      ((above.zipIdx 1).flatMap fun x => editedLine (edits.filter (·.line == x.2)) x.1) ++ done := by
  induction above using List.reverseRecOn generalizing edits done replaced with
  | nil =>
    rw [foldl_apply_outside fun e he => .inl (by have := hl e he; simp at this; omega)]
    rfl
  | append_singleton above line ih =>
    have hlen : ((above ++ [line]).length : Int) = above.length + 1 := by simp
    rw [hlen] at hl hn
    -- the edits of the last line come first, the others leave it alone
    have hsplit := eq_filter_append_filter (p := fun e => e.line == (above.length + 1 : Int)) hsort
      fun a ha b hb hpa hpb => LineEdit.not_notAfter_of_lt (by
        have := hl a ha
        simp only [beq_eq_false_iff_ne, beq_iff_eq] at hpa hpb
        omega)
    obtain ⟨replaced', hturn, hreplaced⟩ := @foldl_turn above done replaced
      (edits.filter fun e => e.line == (above.length + 1 : Int)) line
      (fun e he => by simpa using (List.mem_filter.1 he).2) (hsort.filter _)
      (fun h => by have := hn _ h; omega)
    conv_lhs => rw [hsplit]
    rw [List.foldl_append, List.append_assoc, List.singleton_append, hturn, ih _ _ (hsort.filter _) ?_ ?_]
    · rw [List.zipIdx_append, List.flatMap_append, List.append_assoc]
      congr 1
      · refine List.flatMap_congr fun x hx => ?_
        have hx := (List.mem_zipIdx hx).2.1
        rw [List.filter_filter]
        congr 1
        refine List.filter_congr fun e _ => ?_
        rw [Bool.and_eq_left_iff_imp]
        simp only [beq_iff_eq, Bool.not_eq_true', beq_eq_false_iff_ne]
        omega
      · simp [add_comm]
    · intro e he
      rw [List.mem_filter] at he
      have := hl e he.1
      simp at he
      omega
    · intro number hnumber
      rcases hreplaced number hnumber with rfl | h
      · omega
      · have := hn number h
        omega

end Patch

/-- Sorting leaves the edits of one line in an order that gives the same lines. -/
theorem editedLine_mergeSort (edits : List LineEdit) (number : Int) (line : Text) :
    editedLine ((edits.mergeSort LineEdit.notAfter).filter (·.line == number)) line =
      editedLine (edits.filter (·.line == number)) line := by
  have hkept : ∀ p : LineEdit → Bool, (∀ a b, p a → p b → a.line = b.line → a.notAfter b = true) →
      ((edits.mergeSort LineEdit.notAfter).filter (·.line == number)).filter p =
        (edits.filter (·.line == number)).filter p := by
    intro p hp
    rw [List.filter_filter, List.filter_filter]
    refine filter_mergeSort LineEdit.notAfter_trans LineEdit.notAfter_total (fun a b ha hb => ?_) edits
    simp only [Bool.and_eq_true, beq_iff_eq] at ha hb
    exact hp a b ha.1 hb.1 (ha.2.trans hb.2.symm)
  apply editedLine_congr
  · exact hkept _ fun a b _ hb hl => by simp [LineEdit.notAfter, hl, hb]
  · exact hkept _ fun a b ha _ hl => by simp [LineEdit.notAfter, hl, ha]

@[simp] theorem applyEdits_nil (lines : List Text) : applyEdits lines [] = lines := by simp [applyEdits]

/-- Applying edits gives each line its own edits. -/
theorem applyEdits_eq_flatMap (lines : List Text) (edits : List LineEdit) :
    applyEdits lines edits =
      (lines.zipIdx 1).flatMap fun x => editedLine (edits.filter (·.line == x.2)) x.1 := by
  have hsort := List.pairwise_mergeSort LineEdit.notAfter_trans LineEdit.notAfter_total edits
  have hsplit := eq_filter_append_filter (p := fun e => decide ((lines.length : Int) < e.line)) hsort
    fun a _ b _ ha hb => LineEdit.not_notAfter_of_lt (by
      simp only [decide_eq_false_iff_not, decide_eq_true_eq] at ha hb
      omega)
  have hbelow := @Patch.foldl_apply_outside
    ((edits.mergeSort LineEdit.notAfter).filter fun e => decide ((lines.length : Int) < e.line)) ⟨lines, []⟩
    fun e he => .inr (by simpa using (List.mem_filter.1 he).2)
  unfold applyEdits
  -- edits below the last line come first and do nothing
  conv_lhs => rw [hsplit]
  rw [List.foldl_append, hbelow]
  have hturns := Patch.foldl_apply lines [] [] (hsort.filter fun e => !decide ((lines.length : Int) < e.line))
    (fun e he => by simpa using (List.mem_filter.1 he).2) (by simp)
  rw [List.append_nil, List.append_nil] at hturns
  rw [hturns]
  refine List.flatMap_congr fun x hx => ?_
  have hx := (List.mem_zipIdx hx).2.1
  rw [List.filter_filter, ← editedLine_mergeSort]
  congr 1
  refine List.filter_congr fun e _ => ?_
  rw [Bool.and_eq_left_iff_imp]
  simp only [beq_iff_eq, Bool.not_eq_true', decide_eq_false_iff_not]
  omega

/-- A list with something in the place of each element is no shorter. -/
theorem length_le_length_flatMap {α β : Type} {f : α → List β} {xs : List α} (h : ∀ x ∈ xs, f x ≠ []) :
    xs.length ≤ (xs.flatMap f).length := by
  induction xs with
  | nil => simp
  | cons x xs ih =>
    obtain ⟨hx, hxs⟩ := List.forall_mem_cons.1 h
    have := List.length_pos_iff.2 hx
    have := ih hxs
    simp only [List.flatMap_cons, List.length_append, List.length_cons]
    omega

/-- Edits take no line away. -/
theorem length_le_length_applyEdits (lines : List Text) (edits : List LineEdit) :
    lines.length ≤ (applyEdits lines edits).length := by
  rw [applyEdits_eq_flatMap, ← List.length_zipIdx (i := 1)]
  exact length_le_length_flatMap fun x _ => editedLine_ne_nil _ x.1

/-! ## All edits at once -/

/-- The edit that replaces a line: of those with another text for it, the first in the order given. -/
def replacing? (edits : List LineEdit) (number : Int) : Option LineEdit :=
  edits.find? fun e => e.line == number && e.replacement.isSome

/-- The text in the place of a line. -/
def replacedBy (edits : List LineEdit) (number : Int) (line : Text) : Text :=
  ((replacing? edits number).bind (·.replacement)).getD line

/-- The lines put in front of a line, from top to bottom: those of the edits that only insert, the last
edit on top, then those of the edit that replaces the line. -/
def insertedAbove (edits : List LineEdit) (number : Int) : List Text :=
  (edits.filter fun e => e.line == number && e.replacement.isNone).reverse.flatMap (·.inserted) ++
    (replacing? edits number).toList.flatMap (·.inserted)

/-- Whether an edit is of a line that the document has. -/
def LineEdit.within (count : Nat) (e : LineEdit) : Bool := 1 ≤ e.line && e.line ≤ count

theorem editedLine_filter (edits : List LineEdit) (number : Int) (line : Text) :
    editedLine (edits.filter (·.line == number)) line =
      insertedAbove edits number ++ [replacedBy edits number line] := by
  have hfind : (edits.filter (·.line == number)).find? (·.replacement.isSome) = replacing? edits number := by
    simp only [List.find?_filter, replacing?, Bool.decide_and, Bool.decide_eq_true]
  unfold editedLine insertedAbove replacedBy
  rw [hfind, List.filter_filter, List.append_assoc]
  congr 1
  · congr 3
    funext e
    exact Bool.and_comm ..
  · cases h : replacing? edits number with
    | none => rfl
    | some e =>
      have hsome := List.find?_some h
      rw [Bool.and_eq_true] at hsome
      obtain ⟨text, htext⟩ := Option.isSome_iff_exists.1 hsome.2
      simp [htext]

/-- Applying the edits of issues one by one, from the bottom of the document to its top, does what they
say all at once: in the place of each line stand the lines inserted in front of it, and then the text that
the first edit with another text for it gives, or the line itself. Edits of lines that the document does
not have do nothing. -/
theorem applyEdits_simultaneous (lines : List Text) (issues : List Issue) :
    let edits := issues.filterMap (·.edit)
    applyEdits lines edits =
        (lines.zipIdx 1).flatMap (fun x => insertedAbove edits x.2 ++ [replacedBy edits x.2 x.1]) ∧
      applyEdits lines (edits.filter (·.within lines.length)) = applyEdits lines edits := by
  intro edits
  constructor
  · rw [applyEdits_eq_flatMap]
    exact List.flatMap_congr fun x _ => editedLine_filter edits x.2 x.1
  · rw [applyEdits_eq_flatMap, applyEdits_eq_flatMap]
    refine List.flatMap_congr fun x hx => ?_
    obtain ⟨hlow, hhigh, -⟩ := List.mem_zipIdx hx
    rw [List.filter_filter]
    congr 1
    refine List.filter_congr fun e _ => ?_
    rw [Bool.and_eq_left_iff_imp]
    simp only [beq_iff_eq, LineEdit.within, Bool.and_eq_true, decide_eq_true_eq]
    omega

-- of two replacements the first counts, and the later insertion comes to stand on top
example :
    let edits : List LineEdit := [⟨1, none, [['a']]⟩, ⟨1, some ['x'], [['b']]⟩, ⟨1, some ['y'], [['c']]⟩,
      ⟨1, none, [['d']]⟩]
    insertedAbove edits 1 = [['d'], ['a'], ['b']] ∧ replacedBy edits 1 ['z'] = ['x'] := by decide

end MarkdownStyle
