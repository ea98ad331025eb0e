/-
A code span inside a line of prose. The span itself adds no label, but it is cut out of the line before
the links are read, so a shortcut in front of it may take what stands behind it: a label in brackets
replaces the one of the shortcut, and the target of an inline link or a colon hides it. Nothing else is
read across the cut as long as no bracket in front of the span is left open.
-/
import MarkdownStyle.Proofs.Reference.Label
import MarkdownStyle.Proofs.Text.Lines

namespace MarkdownStyle

/-! ## The specification -/

/-- A text ends in a part in brackets that is used as a label of its own. -/
structure EndsInShortcut (t front label : Text) : Prop where
  text : t = front ++ '[' :: (label ++ [']'])
  unbracketed : Unbracketed label
  nonempty : label ≠ []
  used : usedLabels t = usedLabels front ++ [labelKey label]

/-- What stands behind a shortcut neither hides it nor takes its place. A part in brackets leaves it as
it is if it is empty, or if it has the same label and is not used as well. -/
def Undisturbed (label behind : Text) : Prop :=
  match bracketed? behind with
  | some (next, rest) => next = [] ∨ labelKey next = labelKey label ∧ usedLabels behind = usedLabels rest
  | none => ¬ FollowsOn behind

/-! ## Shortcuts at a cut -/

section

variable {label : Text}

/-- A shortcut is read together with what follows it exactly as the two are read apart, if what follows
leaves it undisturbed. -/
theorem usedLabels_shortcut_iff (h : Unbracketed label) (hne : label ≠ []) (hl : backtick ∉ label) {behind : Text}
    (hb : backtick ∉ behind) :
    usedLabels ('[' :: (label ++ ']' :: behind)) = labelKey label :: usedLabels behind ↔ Undisturbed label behind := by
  have hwhole : backtick ∉ '[' :: (label ++ ']' :: behind) := by
    have hmarks : backtick ≠ '[' ∧ backtick ≠ ']' := by decide
    simp [hl, hb, hmarks]
  unfold Undisturbed
  rw [usedLabels_of_not_mem hwhole]
  cases hbr : bracketed? behind with
  | some p =>
    obtain ⟨next, rest⟩ := p
    obtain ⟨hnext, rfl⟩ := bracketed?_eq_some hbr
    have hrest : backtick ∉ rest := fun hm => hb (by simp [hm])
    rw [linkLabels_labelled h hne hnext, List.map_cons, ← usedLabels_of_not_mem hrest, List.cons.injEq]
    simp only
    rcases eq_or_ne next [] with rfl | hnn
    · rw [List.nil_append] at hb ⊢
      have hsame : usedLabels ('[' :: ']' :: rest) = usedLabels rest := by
        rw [usedLabels_of_not_mem hb, linkLabels_empty, ← usedLabels_of_not_mem hrest]
      rw [hsame]
      simp
    · rw [List.isEmpty_eq_false_iff.2 hnn, eq_comm (a := usedLabels rest)]
      simp [hnn]
  | none =>
    simp only
    by_cases hhead : FollowsOn behind
    · -- hidden, the shortcut is missing from the labels
      rw [linkLabels_hidden h hbr hhead, ← usedLabels_of_not_mem hb]
      refine iff_of_false (fun heq => ?_) (not_not_intro hhead)
      have := congrArg List.length heq
      simp at this
    · rw [linkLabels_shortcut h hne hhead, List.map_cons, ← usedLabels_of_not_mem hb]
      exact iff_of_true rfl hhead

/-- Whatever stands in front of a part in brackets, the part is either read by itself, or it is the label
of a part in front of it, whose own label it then replaces. -/
theorem linkLabels_apart_or_taken (h : Unbracketed label) (hne : label ≠ []) (front : Text) :
    (∀ behind, linkLabels (front ++ '[' :: (label ++ ']' :: behind)) =
        linkLabels front ++ linkLabels ('[' :: (label ++ ']' :: behind))) ∨
      (linkLabels (front ++ '[' :: (label ++ [']']))).length = (linkLabels front).length ∧
        ∀ behind, linkLabels (front ++ '[' :: (label ++ ']' :: behind)) =
          linkLabels (front ++ '[' :: (label ++ [']'])) ++ linkLabels behind := by
  induction hn : front.length using Nat.strong_induction_on generalizing front with
  | _ n ih =>
    rcases eq_or_ne front [] with rfl | hfront
    · exact .inl fun behind => rfl
    by_cases htake : ∃ inner, Unbracketed inner ∧ inner ≠ [] ∧ front = '[' :: (inner ++ [']'])
    · obtain ⟨inner, hinner, hie, rfl⟩ := htake
      have halone : linkLabels ('[' :: (inner ++ [']'])) = [inner] := linkLabels_shortcut hinner hie (by decide)
      have hread : ∀ behind, linkLabels ('[' :: (inner ++ [']']) ++ '[' :: (label ++ ']' :: behind)) =
          label :: linkLabels behind := by
        intro behind
        have := linkLabels_labelled hinner hie h behind
        rw [List.isEmpty_eq_false_iff.2 hne] at this
        simpa using this
      refine .inr ⟨by rw [hread [], halone]; rfl, fun behind => ?_⟩
      rw [hread behind, hread []]
      rfl
    · -- the first step is the same with and without the part, and the rest is shorter
      have hsame : ∀ behind, linkLabel? (front ++ '[' :: (label ++ ']' :: behind)) = linkLabel? front := fun behind =>
        linkLabel?_append hfront (.inr rfl) fun inner hinner hie heq => htake ⟨inner, hinner, hie, heq⟩
      obtain ⟨rest, values, -, hlt, halone, hstep⟩ := Text.exists_step linkLabel?_fits hfront
      rw [← linkLabels, ← linkLabels] at halone
      rcases ih rest.length (hn ▸ hlt) rest rfl with hapart | ⟨hlength, hread⟩
      · refine .inl fun behind => ?_
        rw [linkLabels, hstep _ (hsame behind), ← linkLabels, hapart, halone, List.append_assoc]
      · have hpart : linkLabels (front ++ '[' :: (label ++ [']'])) =
            values ++ linkLabels (rest ++ '[' :: (label ++ [']'])) :=
          hstep _ (hsame [])
        refine .inr ⟨by rw [hpart, halone, List.length_append, List.length_append, hlength], fun behind => ?_⟩
        rw [linkLabels, hstep _ (hsame behind), ← linkLabels, hread, hpart, List.append_assoc]

end

/-- A text with closed brackets that does not end in a part in brackets is read by itself. -/
theorem linkLabels_append {t : Text} (hclosed : Closed t)
    (hend : ∀ front label, Unbracketed label → label ≠ [] → t ≠ front ++ '[' :: (label ++ [']'])) (behind : Text) :
    linkLabels (t ++ behind) = linkLabels t ++ linkLabels behind := by
  refine Text.findAll_append linkLabel?_fits fun back hback hne => ?_
  refine linkLabel?_append hne (.inl (hclosed.of_suffix hback)) ?_
  rintro inner hinner hie rfl
  obtain ⟨front, hfront⟩ := hback
  exact hend front inner hinner hie hfront.symm

/-! ## Spans -/

theorem usedLabels_span {u c v : Text} (hu : backtick ∉ u) (hne : c ≠ []) (hc : backtick ∉ c) (hline : Text.NoBreak c)
    (hv : backtick ∉ v) :
    usedLabels (u ++ backtick :: (c ++ backtick :: v)) = (linkLabels (u ++ v)).map labelKey := by
  have hfeed : '\n' ∉ c := fun hm => Bool.noConfusion (hline _ hm)
  rw [usedLabels, removeCodeSpans_append hu, removeCodeSpans_span hne hc hfeed, removeCodeSpans_of_not_mem hv,
    findAll_reference?]

/-- A text of which a part in brackets at the end is read by itself ends in a shortcut. -/
theorem endsInShortcut_of_apart {front label : Text} (ht : backtick ∉ front ++ '[' :: (label ++ [']']))
    (h : Unbracketed label) (hne : label ≠ [])
    (hapart : ∀ behind, linkLabels (front ++ '[' :: (label ++ ']' :: behind)) =
      linkLabels front ++ linkLabels ('[' :: (label ++ ']' :: behind))) :
    EndsInShortcut (front ++ '[' :: (label ++ [']'])) front label := by
  have hfront : backtick ∉ front := fun hm => ht (List.mem_append_left _ hm)
  refine ⟨rfl, h, hne, ?_⟩
  rw [usedLabels_of_not_mem ht, usedLabels_of_not_mem hfront, hapart [], linkLabels_shortcut h hne (by decide),
    List.map_append]
  rfl

/-- A shortcut at the end of a text is read apart from what stands in front of it, whatever follows: as the
label of a part in front of it, it would not be counted. -/
theorem EndsInShortcut.read_apart {t front label : Text} (h : EndsInShortcut t front label) (ht : backtick ∉ t)
    (behind : Text) :
    linkLabels (t ++ behind) = linkLabels front ++ linkLabels ('[' :: (label ++ ']' :: behind)) := by
  obtain ⟨rfl, hlabel, hne, hused⟩ := h
  have happend : front ++ '[' :: (label ++ [']']) ++ behind = front ++ '[' :: (label ++ ']' :: behind) := by simp
  rw [happend]
  rcases linkLabels_apart_or_taken hlabel hne front with hapart | ⟨hlength, -⟩
  · exact hapart behind
  · have hfront : backtick ∉ front := fun hm => ht (List.mem_append_left _ hm)
    have hcount := congrArg List.length hused
    rw [usedLabels_of_not_mem ht, usedLabels_of_not_mem hfront, List.length_append, List.length_map, List.length_map,
      hlength] at hcount
    simp at hcount

/-- With a code span in it a line uses the labels that the two sides of the span use by themselves,
exactly if no shortcut in front of the span is disturbed by what stands behind it. If one is, it is
read as if that stood directly behind it. -/
theorem usedLabels_codeSpan {u c v : Text} (hu : backtick ∉ u) (hclosed : Closed u) (hne : c ≠ []) (hc : backtick ∉ c)
    (hline : Text.NoBreak c) (hv : backtick ∉ v) :
    let whole := u ++ backtick :: (c ++ backtick :: v)
    (usedLabels whole = usedLabels u ++ usedLabels v ↔
        ∀ front label, EndsInShortcut u front label → Undisturbed label v) ∧
      ∀ front label, EndsInShortcut u front label →
        usedLabels whole = usedLabels front ++ usedLabels ('[' :: (label ++ ']' :: v)) := by
  intro whole
  have hwhole : usedLabels whole = (linkLabels (u ++ v)).map labelKey := usedLabels_span hu hne hc hline hv
  have hfree : ∀ {front label}, u = front ++ '[' :: (label ++ [']']) → backtick ∉ front ∧ backtick ∉ label := by
    rintro front label rfl
    simp only [List.mem_append, List.mem_cons, not_or] at hu
    exact ⟨hu.1, hu.2.2.1⟩
  have hshortcut : ∀ front label, EndsInShortcut u front label →
      usedLabels whole = usedLabels front ++ usedLabels ('[' :: (label ++ ']' :: v)) := by
    intro front label h
    obtain ⟨hfront, hlabel⟩ := hfree h.text
    have hpart : backtick ∉ '[' :: (label ++ ']' :: v) := by
      have hmarks : backtick ≠ '[' ∧ backtick ≠ ']' := by decide
      simp [hlabel, hv, hmarks]
    rw [hwhole, h.read_apart hu, List.map_append, usedLabels_of_not_mem hfront, usedLabels_of_not_mem hpart]
  refine ⟨⟨fun hlaw front label h => ?_, fun hquiet => ?_⟩, hshortcut⟩
  · rw [hshortcut front label h, h.used, List.append_assoc, List.append_cancel_left_eq] at hlaw
    exact (usedLabels_shortcut_iff h.unbracketed h.nonempty (hfree h.text).2 hv).1 hlaw
  · by_cases hend : ∃ front label, Unbracketed label ∧ label ≠ [] ∧ u = front ++ '[' :: (label ++ [']'])
    · obtain ⟨front, label, hlabel, hle, rfl⟩ := hend
      rcases linkLabels_apart_or_taken hlabel hle front with hapart | ⟨-, hread⟩
      · have h := endsInShortcut_of_apart hu hlabel hle hapart
        have hkept := (usedLabels_shortcut_iff hlabel hle (hfree rfl).2 hv).2 (hquiet front label h)
        rw [hshortcut front label h, hkept, h.used, List.append_assoc, List.singleton_append]
      · -- the part at the end is the label of one in front of it, so what follows is read by itself
        have hjoined : front ++ '[' :: (label ++ [']']) ++ v = front ++ '[' :: (label ++ ']' :: v) := by simp
        rw [hwhole, hjoined, hread, List.map_append, ← usedLabels_of_not_mem hu, ← usedLabels_of_not_mem hv]
    · have hopen := linkLabels_append hclosed
        (fun front label hlabel hle heq => hend ⟨front, label, hlabel, hle, heq⟩) v
      rw [hwhole, hopen, List.map_append, ← usedLabels_of_not_mem hu, ← usedLabels_of_not_mem hv]

/-- Behind a full reference and a shortcut, a label in brackets takes the place of the shortcut. -/
theorem usedLabels_codeSpan_of_label :
    let u := "![x][y][a]".toList
    let v := "[b] (c)".toList
    Closed u ∧ EndsInShortcut u "![x][y]".toList ['a'] ∧ ¬ Undisturbed ['a'] v ∧
      usedLabels (u ++ backtick :: ("[z]".toList ++ backtick :: v)) = [['y'], ['b']] ∧
        usedLabels u ++ usedLabels v = [['y'], ['a'], ['b']] := by
  intro u v
  have hclosed : Closed u := by decide
  have hends : EndsInShortcut u "![x][y]".toList ['a'] := ⟨by decide, by decide, by decide, by decide⟩
  have happart : usedLabels u ++ usedLabels v = [['y'], ['a'], ['b']] := by decide
  have hline : Text.NoBreak "[z]".toList := by decide
  have hquiet : ¬ Undisturbed ['a'] v := by
    show ¬ (['b'] = ([] : Text) ∨ labelKey ['b'] = labelKey ['a'] ∧ usedLabels v = usedLabels " (c)".toList)
    decide
  obtain ⟨-, hread⟩ := usedLabels_codeSpan (by decide) hclosed (by decide) (by decide) hline (by decide : backtick ∉ v)
  have hboth : usedLabels "![x][y]".toList ++ usedLabels ('[' :: (['a'] ++ ']' :: v)) = [['y'], ['b']] := by decide
  exact ⟨hclosed, hends, hquiet, (hread _ _ hends).trans hboth, happart⟩

/-- A shortcut in front of a code span is not read when a bracket of prose stands behind the span: cut out
of the line, the span no longer keeps the two apart. -/
theorem usedLabels_codeSpan_ne :
    let u := "[a]".toList
    let c := "c".toList
    let v := "(b)".toList
    (∀ t ∈ [u, c, v], backtick ∉ t ∧ Text.NoBreak t) ∧ c ≠ [] ∧ Closed u ∧ ']' ∉ v ∧
      usedLabels (u ++ backtick :: (c ++ backtick :: v)) ≠ usedLabels u ++ usedLabels v := by decide

end MarkdownStyle
