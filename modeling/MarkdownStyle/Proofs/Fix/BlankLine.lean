/-
What inserting blank lines above headings does to a document. The inserted lines are blank, all other
lines stay as they are and keep their roles, and no heading lacks blank lines any more.
-/
import MarkdownStyle.Proofs.Fix.Fixpoint
import MarkdownStyle.Proofs.Fix.Single

namespace MarkdownStyle

/-! ## Marked places -/

section Marks

variable {α β : Type} {mark : Bool}

/-- The elements of a list whose places have the mark. -/
def withMark (mark : Bool) (marks : List Bool) (xs : List α) : List α :=
  ((xs.zip marks).filter (·.2 == mark)).map (·.1)

theorem withMark_nil (mark : Bool) (marks : List Bool) : withMark mark marks ([] : List α) = [] := rfl

theorem withMark_cons (m : Bool) (marks : List Bool) (x : α) (xs : List α) :
    withMark mark (m :: marks) (x :: xs) =
      if m = mark then x :: withMark mark marks xs else withMark mark marks xs := by
  by_cases h : m = mark <;> simp [withMark, h]

theorem withMark_map (f : α → β) (marks : List Bool) (xs : List α) :
    withMark mark marks (xs.map f) = (withMark mark marks xs).map f := by
  unfold withMark
  rw [List.zip_map_left, List.filter_map, List.map_map, List.map_map]
  rfl

/-- Marked elements in front of one that is not. -/
theorem withMark_marked_append (front : List α) (x : α) (marks : List Bool) (xs : List α) :
    withMark true (List.replicate front.length true ++ false :: marks) (front ++ x :: xs) =
        front ++ withMark true marks xs ∧
      withMark false (List.replicate front.length true ++ false :: marks) (front ++ x :: xs) =
        x :: withMark false marks xs := by
  induction front with
  | nil => exact ⟨withMark_cons .., withMark_cons ..⟩
  | cons y front ih =>
    obtain ⟨htrue, hfalse⟩ := ih
    rw [List.length_cons, List.replicate_succ, List.cons_append, List.cons_append, withMark_cons, withMark_cons,
      htrue, hfalse]
    exact ⟨rfl, rfl⟩

end Marks

/-- Marks on the lines that edits make of lines with these numbers: which of them are inserted. -/
def insertedMarks (edits : List LineEdit) (numbers : List Nat) : List Bool :=
  numbers.flatMap fun number : Nat => List.replicate (insertedAbove edits number).length true ++ [false]

theorem insertedMarks_cons (edits : List LineEdit) (number : Nat) (numbers : List Nat) :
    insertedMarks edits (number :: numbers) =
      List.replicate (insertedAbove edits number).length true ++ false :: insertedMarks edits numbers := by
  unfold insertedMarks
  rw [List.flatMap_cons, List.append_assoc, List.singleton_append]

/-- The marked lines of the new document are blank, and without them it is the old one: the lines are the
same and have the same roles. -/
structure Spreads (lines new : List Text) (added : List Bool) : Prop where
  length : added.length = new.length
  kept : withMark false added new = lines
  blank : ∀ line ∈ withMark true added (classify new), line.role = .blank
  roles : (withMark false added (classify new)).map (·.role) = (classify lines).map (·.role)

/-! ## Sites below inserted lines -/

namespace Mending

variable {m : Mending} {xs ys : List Site}

/-- The rule on blank lines changes no line itself, nor its role. -/
theorem Stands.same_of_blank {x y : Site} {inserted : List Site} (h : m.Stands x inserted y) (hd : m.dash = none)
    (hf : m.fence = none) : y.line.text = x.line.text ∧ y.line.role = x.line.role := by
  constructor
  · have hlines : m.lines x = editedLine (m.edits x) x.line.text := rfl
    have hminds := m.minds_edits x
    generalize m.edits x = edits at hlines hminds
    cases hminds with
    | none => exact (h.of_lines_eq hlines).2
    | dash hstyle => rw [hd] at hstyle; cases hstyle
    | fence hlength => rw [hf] at hlength; cases hlength
    | blank =>
      rw [editedLine_insert] at hlines
      exact List.singleton_inj.1 (List.append_inj' (h.lines_eq.trans hlines) rfl).2
  · rcases h.role with hrole | ⟨htext, hedits, -⟩
    · exact hrole
    · exact absurd (edits_of_text hd htext) hedits

/-- Where only blank lines are minded, the sites that stand for sites are those of the same lines, with
blank ones inserted. -/
theorem Replays.withMark (h : m.Replays xs ys) (hd : m.dash = none) (hf : m.fence = none) {edits : List LineEdit}
    (hedits : ∀ x ∈ xs, edits.filter (·.line == (x.line.number : Int)) = m.edits x) :
    let marks := insertedMarks edits (xs.map (·.line.number))
    marks.length = ys.length ∧ (∀ y ∈ withMark true marks ys, y.line.role = .blank) ∧
      (withMark false marks ys).map (fun y => (y.line.text, y.line.role)) =
        xs.map (fun x => (x.line.text, x.line.role)) := by
  induction h with
  | nil => exact ⟨rfl, by simp [withMark_nil], rfl⟩
  | @cons x y inserted xs ys hstands _ ih =>
    obtain ⟨hx, hxs⟩ := List.forall_mem_cons.1 hedits
    obtain ⟨hlength, hblank, hsame⟩ := ih hxs
    obtain ⟨htext, hrole⟩ := hstands.same_of_blank hd hf
    have hcount : (insertedAbove edits x.line.number).length = inserted.length := by
      rw [← hstands.map_text_inserted hx, List.length_map]
    obtain ⟨htrue, hfalse⟩ := withMark_marked_append inserted y (insertedMarks edits (xs.map (·.line.number))) ys
    intro marks
    have hmarks : marks = List.replicate inserted.length true ++ false ::
        insertedMarks edits (xs.map (·.line.number)) := by
      rw [← hcount, ← insertedMarks_cons, ← List.map_cons (f := fun x : Site => x.line.number)]
    rw [hmarks, htrue, hfalse]
    refine ⟨?_, ?_, ?_⟩
    · rw [List.length_append, List.length_append, List.length_replicate, List.length_cons, List.length_cons, hlength]
    · intro z hz
      rcases List.mem_append.1 hz with hz | hz
      · exact hstands.blank z hz
      · exact hblank z hz
    · rw [List.map_cons, List.map_cons, hsame, htext, hrole]

end Mending

/-! ## Enough blank lines -/

/-- The rule on blank lines alone. -/
def BlankLine.mending (style : Style) : Mending := ⟨none, none, some style⟩

theorem BlankLine.mending_valid (style : Style) : (mending style).Valid where
  step _ h := by cases h
  gap _ h := by cases h
  length _ h := by cases h

/-- Inserting the blank lines that headings lack is enough, and changes nothing else: the rule finds
nothing more, the inserted lines are blank, and without them the document is the old one, where each line
has the role that it had. -/
theorem BlankLine.fixed_spreads (lines : List Text) (o : Options) (hfirst : o.int "lines_before_h1" 1 < countLimit)
    (hsecond : o.int "lines_before_h2" 2 < countLimit) :
    ∃ issues, blankLineRule.issues (.ofLines lines) o = .ok issues ∧
      let edits := issues.filterMap (·.edit)
      let fixed := applyEdits lines edits
      blankLineRule.issues (.ofLines fixed) o = .ok [] ∧
        Spreads lines fixed (insertedMarks edits (List.range' 1 lines.length)) := by
  have hchecks := blankLineRule_checksSites o
  have hlimit : ∀ level, (Style.ofOptions o).required level < countLimit := by
    intro level
    unfold Style.required
    split
    · exact hfirst
    · exact hsecond
  obtain ⟨issues, hissues⟩ := Rule.exists_issues
    ((@Rule.ChecksSites.issues_isOk _ _ _ lines hchecks).2 fun x _ => check_isOk hlimit x)
  refine ⟨issues, hissues, ?_⟩
  intro edits fixed
  have hmends : (mending (.ofOptions o)).MendsBy lines issues := Mending.mendsBy_of_issues rfl hchecks hissues
  obtain ⟨hreplays, hpass⟩ := Mending.replays_of_unfenced (mending_valid (.ofOptions o)) rfl hmends.runs
  rw [← hmends.applyEdits] at hreplays hpass
  obtain ⟨hlength, hblank, hsame⟩ := hreplays.withMark rfl rfl hmends.edits
  rw [map_number_sites] at hlength hblank hsame
  refine ⟨hchecks.issues_eq_nil fun y hy => (hpass y hy).blank _ rfl, ?_, ?_, ?_, ?_⟩
  · rw [hlength, ← List.length_map (·.line.text), map_text_sites]
  · have htexts := congrArg (List.map Prod.fst) hsame
    rw [List.map_map, List.map_map] at htexts
    rw [← map_text_sites fixed, withMark_map]
    exact htexts.trans (map_text_sites lines)
  · rw [← map_line_sites, withMark_map]
    intro line hline
    obtain ⟨y, hy, rfl⟩ := List.mem_map.1 hline
    exact hblank y hy
  · have hroles := congrArg (List.map Prod.snd) hsame
    rw [List.map_map, List.map_map] at hroles
    rw [← map_line_sites, ← map_line_sites, withMark_map, List.map_map, List.map_map]
    exact hroles

/-- The text of the first heading would continue a definition if it were not underlined; with a blank line
in front of it the two are apart, and it is underlined all the same. -/
theorem BlankLine.fixed_spreads_below_definition :
    Options.int [] "lines_before_h1" 1 < countLimit ∧ Options.int [] "lines_before_h2" 2 < countLimit ∧
      let lines := ["[a]: b".toList, "c".toList, "===".toList, "d".toList, "---".toList]
      ∃ issues, blankLineRule.issues (.ofLines lines) [] = .ok issues ∧
        let fixed := applyEdits lines (issues.filterMap (·.edit))
        blankLineRule.issues (.ofLines fixed) [] = .ok [] ∧
          Spreads lines fixed [false, true, false, false, true, true, false, false] := by
  refine ⟨by decide, by decide, ?_⟩
  intro lines
  obtain ⟨issues, hissues, hquiet, hspreads⟩ := BlankLine.fixed_spreads lines [] (by decide) (by decide)
  have hedits : issues.filterMap (·.edit) = [.insert 2 [[]], .insert 4 [[], []]] := by
    have hrun : (blankLineRule.issues (.ofLines lines) []).map (·.filterMap (·.edit)) =
        .ok [.insert 2 [[]], .insert 4 [[], []]] := rfl
    rw [hissues] at hrun
    exact Except.ok.inj hrun
  have hmarks : insertedMarks (issues.filterMap (·.edit)) (List.range' 1 lines.length) =
      [false, true, false, false, true, true, false, false] := by
    rw [hedits]
    decide
  exact ⟨issues, hissues, hquiet, hmarks ▸ hspreads⟩

end MarkdownStyle
