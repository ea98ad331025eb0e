/-
Reading the labels of a line. Code spans are cut out first; of a line whose backticks enclose one span
exactly the span is lost. What is left is read from bracket to bracket: a full or collapsed reference
and a shortcut give their label, and any other bracket is passed over like plain text. The mark of an
image makes no difference.
-/
import MarkdownStyle.Proofs.Line.Reading
import MarkdownStyle.Proofs.Text.Scan
import MarkdownStyle.Reference.Label

namespace MarkdownStyle

/-! ## Code spans -/

theorem codeSpan?_of_ne {c : Char} (h : c ≠ backtick) (rest : Text) : codeSpan? (c :: rest) = none := by
  have hrun : Text.span (· == backtick) (c :: rest) = ([], c :: rest) :=
    Text.span_eq_iff.2 ⟨rfl, by simp, by rintro d ⟨⟩; simpa using h⟩
  unfold codeSpan?
  rw [hrun]
  rfl

theorem removeCodeSpans_append {plain : Text} (h : backtick ∉ plain) (rest : Text) :
    removeCodeSpans (plain ++ rest) = plain ++ removeCodeSpans rest :=
  Text.replaceAll_append_of_none (fun c hc => codeSpan?_of_ne (by rintro rfl; exact h hc)) rest

theorem removeCodeSpans_of_not_mem {t : Text} (h : backtick ∉ t) : removeCodeSpans t = t := by
  have hnil : removeCodeSpans [] = [] := Text.replaceAll_nil
  have := removeCodeSpans_append h []
  rwa [List.append_nil, hnil, List.append_nil] at this

/-- The nearest backtick closes a span that a single one opens. -/
theorem lengthToTicks?_one {inner : Text} (h : backtick ∉ inner) (hline : '\n' ∉ inner) (rest : Text) :
    lengthToTicks? 1 (inner ++ backtick :: rest) = some (inner.length + 1) := by
  induction inner with
  | nil => rfl
  | cons c inner ih =>
    rw [List.mem_cons, not_or] at h hline
    rw [List.cons_append, lengthToTicks?, if_neg, if_neg, ih h.2 hline.2]
    · rfl
    · simpa using Ne.symm hline.1
    · simpa using Ne.symm h.1

/-- A single backtick can only open a span that a single one closes. -/
theorem codeSpan?_single {rest : Text} (h : rest.head? ≠ some backtick) :
    codeSpan? (backtick :: rest) = (spanLength? 1 rest).map (⟨·, []⟩) := by
  have hrun : Text.span (· == backtick) (backtick :: rest) = ([backtick], rest) := by
    refine Text.span_eq_iff.2 ⟨rfl, by simp, fun c hc => ?_⟩
    have hne : c ≠ backtick := by
      rintro rfl
      exact h hc
    simpa using hne
  unfold codeSpan?
  rw [hrun]
  cases hs : spanLength? 1 rest <;> simp [hs]

theorem removeCodeSpans_span {inner : Text} (hne : inner ≠ []) (h : backtick ∉ inner) (hline : '\n' ∉ inner)
    (rest : Text) : removeCodeSpans (backtick :: (inner ++ backtick :: rest)) = removeCodeSpans rest := by
  obtain ⟨c, inner, rfl⟩ := List.exists_cons_of_ne_nil hne
  rw [List.mem_cons, not_or] at h hline
  have hlength : spanLength? 1 (c :: (inner ++ backtick :: rest)) = some (1 + 1 + (inner.length + 1)) := by
    rw [spanLength?, if_neg (by simpa using Ne.symm hline.1), lengthToTicks?_one h.2 hline.2]
    rfl
  have hspan : codeSpan? ((backtick :: c :: (inner ++ [backtick])) ++ rest) =
      some ⟨(backtick :: c :: (inner ++ [backtick])).length, []⟩ := by
    have hhead : (c :: (inner ++ backtick :: rest)).head? ≠ some backtick := by simpa using Ne.symm h.1
    rw [List.cons_append, List.cons_append, List.append_assoc, List.singleton_append, codeSpan?_single hhead, hlength]
    simp only [Option.map_some, List.length_cons, List.length_append, List.length_nil]
    congr 2
    omega
  have := Text.replaceAll_append_of_some (List.cons_ne_nil _ _) hspan
  rwa [List.cons_append, List.cons_append, List.append_assoc, List.singleton_append] at this

/-! ## Brackets -/

/-- A text without brackets. -/
def Unbracketed (t : Text) : Prop := ∀ c ∈ t, isBracket c = false

instance : DecidablePred Unbracketed := fun t => List.decidableBAll (fun c => isBracket c = false) t

/-- Every opening bracket has a closing one behind it. -/
def Closed (t : Text) : Prop := ∀ rest ∈ t.tails, rest.head? = some '[' → ']' ∈ rest

instance : DecidablePred Closed :=
  fun t => inferInstanceAs (Decidable (∀ rest ∈ t.tails, rest.head? = some '[' → ']' ∈ rest))

theorem unbracketed_nil : Unbracketed [] := fun _ h => absurd h List.not_mem_nil

theorem Unbracketed.not_mem {t : Text} (h : Unbracketed t) : '[' ∉ t ∧ ']' ∉ t :=
  ⟨fun hm => Bool.noConfusion (h _ hm), fun hm => Bool.noConfusion (h _ hm)⟩

theorem Closed.of_suffix {t rest : Text} (h : Closed t) (hs : rest <:+ t) : Closed rest :=
  fun more hm => h more ((List.mem_tails _ _).2 (((List.mem_tails _ _).1 hm).trans hs))

/-- What stands up to the first bracket. -/
theorem exists_unbracketed (t : Text) :
    ∃ inner back, Unbracketed inner ∧ t = inner ++ back ∧ ∀ c ∈ back.head?, c = '[' ∨ c = ']' := by
  obtain ⟨ht, hinner, hback⟩ := Text.span_eq_iff.1 (rfl : Text.span (!isBracket ·) t = _)
  refine ⟨_, _, fun c hc => by simpa using hinner c hc, ht, fun c hc => ?_⟩
  exact or_iff_not_imp_left.2 (by simpa [isBracket] using hback c hc)

theorem bracketed?_of_ne {c : Char} (h : c ≠ '[') (rest : Text) : bracketed? (c :: rest) = none := by
  unfold bracketed?
  split
  · rename_i hc
    exact absurd (List.cons.inj hc).1 h
  · rfl

theorem bracketed?_closed {inner : Text} (h : Unbracketed inner) (rest : Text) :
    bracketed? ('[' :: (inner ++ ']' :: rest)) = some (inner, rest) := by
  have hspan : Text.span (!isBracket ·) (inner ++ ']' :: rest) = (inner, ']' :: rest) :=
    Text.span_eq_iff.2 ⟨rfl, fun c hc => by simp [h c hc], by rintro c ⟨⟩; rfl⟩
  unfold bracketed?
  simp only [hspan]

/-- A bracket that is open or in which another opens holds nothing. -/
theorem bracketed?_open {inner back : Text} (h : Unbracketed inner) (hback : ∀ c ∈ back.head?, c = '[') :
    bracketed? ('[' :: (inner ++ back)) = none := by
  have hspan : Text.span (!isBracket ·) (inner ++ back) = (inner, back) :=
    Text.span_eq_iff.2 ⟨rfl, fun c hc => by simp [h c hc], fun c hc => by rw [hback c hc]; rfl⟩
  unfold bracketed?
  simp only [hspan]
  split
  · rename_i heq
    have := hback ']' (by rw [(Prod.mk.inj heq).2]; rfl)
    cases this
  · rfl

theorem bracketed?_eq_some {t inner rest : Text} (h : bracketed? t = some (inner, rest)) :
    Unbracketed inner ∧ t = '[' :: (inner ++ ']' :: rest) := by
  rcases t with _ | ⟨c, t⟩
  · cases h
  by_cases hc : c = '['
  · obtain ⟨front, back, hfront, rfl, hback⟩ := exists_unbracketed t
    rcases back with _ | ⟨d, back⟩
    · rw [hc, bracketed?_open hfront (by simp)] at h
      cases h
    · rcases hback d rfl with rfl | rfl
      · rw [hc, bracketed?_open hfront (by simp)] at h
        cases h
      · rw [hc, bracketed?_closed hfront] at h
        cases h
        exact ⟨hfront, by rw [hc]⟩
  · rw [bracketed?_of_ne hc] at h
    cases h

theorem Closed.bracket {rest : Text} (h : Closed ('[' :: rest)) : ']' ∈ rest := by
  have := h _ ((List.mem_tails _ _).2 List.suffix_rfl) rfl
  simpa using this

/-- A bracket that is closed, or in front of another one, reads the same whatever follows. -/
theorem bracketed?_append {s w : Text} (hne : s ≠ []) (h : Closed s ∨ w.head? = some '[') :
    bracketed? (s ++ w) = (bracketed? s).map fun p => (p.1, p.2 ++ w) := by
  obtain ⟨c, rest, rfl⟩ := List.exists_cons_of_ne_nil hne
  by_cases hc : c = '['
  · subst hc
    obtain ⟨inner, back, hinner, rfl, hback⟩ := exists_unbracketed rest
    rw [List.cons_append, List.append_assoc]
    rcases back with _ | ⟨d, back⟩
    · have hw : w.head? = some '[' := by
        refine h.resolve_left fun hclosed => hinner.not_mem.2 ?_
        simpa using hclosed.bracket
      have hopen : ∀ c ∈ w.head?, c = '[' := by simp [hw]
      rw [List.nil_append, bracketed?_open hinner hopen, bracketed?_open hinner (by simp)]
      rfl
    · rcases hback d rfl with rfl | rfl
      · rw [List.cons_append, bracketed?_open hinner (by simp), bracketed?_open hinner (by simp)]
        rfl
      · rw [List.cons_append, bracketed?_closed hinner, bracketed?_closed hinner]
        rfl
  · rw [List.cons_append, bracketed?_of_ne hc, bracketed?_of_ne hc]
    rfl

/-! ## Links -/

/-- What a shortcut must not stand in front of. -/
def followers : List Char := ['[', '(', ':']

/-- The text begins with a follower. -/
def FollowsOn (t : Text) : Prop := ∃ c ∈ t.head?, c ∈ followers

instance : DecidablePred FollowsOn
  | [] => isFalse (by rintro ⟨_, h, -⟩; cases h)
  | c :: rest => decidable_of_iff (c ∈ followers) (by simp [FollowsOn])

theorem followsOn_append {t : Text} (h : t ≠ []) (w : Text) : FollowsOn (t ++ w) ↔ FollowsOn t := by
  rw [FollowsOn, List.head?_append_of_ne_nil _ h, FollowsOn]

section

variable {inner rest : Text}

theorem linkLabel?_of_ne {c : Char} (h : c ≠ '[') (rest : Text) : linkLabel? (c :: rest) = none := by
  unfold linkLabel?
  rw [bracketed?_of_ne h]

theorem linkLabel?_open (h : bracketed? rest = none) : linkLabel? rest = none := by
  unfold linkLabel?
  rw [h]

theorem linkLabel?_empty (rest : Text) : linkLabel? ('[' :: ']' :: rest) = none := by
  have hempty : bracketed? ('[' :: ([] ++ ']' :: rest)) = some ([], rest) := bracketed?_closed unbracketed_nil rest
  unfold linkLabel?
  rw [List.nil_append] at hempty
  rw [hempty]

/-- A part in brackets takes the label behind it, and is a shortcut where neither a label nor another
follower stands there. -/
theorem linkLabel?_closed (h : Unbracketed inner) (hne : inner ≠ []) (rest : Text) :
    linkLabel? ('[' :: (inner ++ ']' :: rest)) =
      match bracketed? rest with
      | some (label, _) => some ⟨inner.length + label.length + 4, if label.isEmpty then inner else label⟩
      | none => if FollowsOn rest then none else some ⟨inner.length + 2, inner⟩ := by
  unfold linkLabel?
  rw [bracketed?_closed h]
  cases inner with
  | nil => exact absurd rfl hne
  | cons c inner =>
    simp only
    cases bracketed? rest with
    | some p => rfl
    | none =>
      simp only
      split
      · exact (if_pos ⟨'[', rfl, by decide⟩).symm
      · exact (if_pos ⟨'(', rfl, by decide⟩).symm
      · exact (if_pos ⟨':', rfl, by decide⟩).symm
      · rename_i h1 h2 h3
        rw [if_neg]
        rintro ⟨c, hc, hmem⟩
        obtain ⟨more, rfl⟩ := List.head?_eq_some_iff.1 hc
        simp only [followers, List.mem_cons, List.not_mem_nil, or_false] at hmem
        rcases hmem with rfl | rfl | rfl
        · exact h1 more rfl
        · exact h2 more rfl
        · exact h3 more rfl

theorem linkLabel?_full (h : Unbracketed inner) (hne : inner ≠ []) (label : Text) (hl : Unbracketed label)
    (rest : Text) :
    linkLabel? ('[' :: (inner ++ ']' :: '[' :: (label ++ [']'])) ++ rest) =
      some ⟨('[' :: (inner ++ ']' :: '[' :: (label ++ [']']))).length, if label.isEmpty then inner else label⟩ := by
  simp only [List.cons_append, List.append_assoc, List.nil_append]
  rw [linkLabel?_closed h hne, bracketed?_closed hl]
  simp
  omega

theorem linkLabel?_shortcut (h : Unbracketed inner) (hne : inner ≠ []) (hrest : ¬ FollowsOn rest) :
    linkLabel? ('[' :: (inner ++ [']']) ++ rest) = some ⟨('[' :: (inner ++ [']'])).length, inner⟩ := by
  have hnone : bracketed? rest = none := by
    rcases rest with _ | ⟨c, rest⟩
    · rfl
    · refine bracketed?_of_ne ?_ rest
      rintro rfl
      exact hrest ⟨'[', rfl, by decide⟩
  simp only [List.cons_append, List.append_assoc, List.nil_append]
  rw [linkLabel?_closed h hne, hnone]
  simp only [if_neg hrest, List.length_cons, List.length_append, List.length_nil]

/-- In front of a follower that opens no label, a part in brackets is no link. -/
theorem linkLabel?_of_follower (h : Unbracketed inner) (hrest : bracketed? rest = none)
    (hhead : FollowsOn rest) : linkLabel? ('[' :: (inner ++ ']' :: rest)) = none := by
  rcases eq_or_ne inner [] with rfl | hne
  · exact linkLabel?_empty rest
  · rw [linkLabel?_closed h hne, hrest]
    exact if_pos hhead

/-- A link takes a start of the text. -/
theorem linkLabel?_eq_some {t : Text} {f : Text.Found Text} (h : linkLabel? t = some f) :
    ∃ taken rest, t = taken ++ rest ∧ taken ≠ [] ∧ linkLabel? (taken ++ rest) = some ⟨taken.length, f.value⟩ := by
  cases hb : bracketed? t with
  | none =>
    rw [linkLabel?_open hb] at h
    cases h
  | some p =>
    obtain ⟨inner, rest⟩ := p
    obtain ⟨hinner, rfl⟩ := bracketed?_eq_some hb
    rcases eq_or_ne inner [] with rfl | hne
    · rw [List.nil_append, linkLabel?_empty] at h
      cases h
    rw [linkLabel?_closed hinner hne] at h
    cases hr : bracketed? rest with
    | some p =>
      obtain ⟨label, rest⟩ := p
      obtain ⟨hlabel, rfl⟩ := bracketed?_eq_some hr
      rw [hr] at h
      cases h
      exact ⟨_, rest, by simp, List.cons_ne_nil _ _, linkLabel?_full hinner hne label hlabel rest⟩
    | none =>
      rw [hr] at h
      simp only at h
      split at h
      · cases h
      · rename_i hhead
        cases h
        exact ⟨_, rest, by simp, List.cons_ne_nil _ _, linkLabel?_shortcut hinner hne hhead⟩

theorem linkLabel?_fits : Text.Fits linkLabel? := by
  intro t f h
  obtain ⟨taken, rest, rfl, hne, hf⟩ := linkLabel?_eq_some h
  have hlength : f.length = taken.length := congrArg Text.Found.length (Option.some.inj (h.symm.trans hf))
  have := List.length_pos_iff.2 hne
  rw [hlength, List.length_append]
  omega

/-- Unless it is a part in brackets and nothing else, a text whose brackets are closed, or that stands in
front of a bracket, starts with a link or not whatever follows it. -/
theorem linkLabel?_append {s w : Text} (hne : s ≠ []) (h : Closed s ∨ w.head? = some '[')
    (hs : ∀ inner, Unbracketed inner → inner ≠ [] → s ≠ '[' :: (inner ++ [']'])) :
    linkLabel? (s ++ w) = linkLabel? s := by
  have hb := bracketed?_append hne h
  cases hp : bracketed? s with
  | none =>
    rw [hp] at hb
    rw [linkLabel?_open hp, linkLabel?_open hb]
  | some p =>
    obtain ⟨inner, rest⟩ := p
    obtain ⟨hinner, rfl⟩ := bracketed?_eq_some hp
    rcases eq_or_ne inner [] with rfl | hie
    · rw [List.nil_append, linkLabel?_empty]
      exact linkLabel?_empty (rest ++ w)
    -- what decides is the rest, which is not empty
    have hrest : rest ≠ [] := by
      rintro rfl
      exact hs inner hinner hie rfl
    have hclosed : Closed rest ∨ w.head? = some '[' :=
      h.imp_left fun hc => hc.of_suffix ⟨'[' :: (inner ++ [']']), by simp⟩
    rw [linkLabel?_closed hinner hie, List.cons_append, List.append_assoc, List.cons_append,
      linkLabel?_closed hinner hie, bracketed?_append hrest hclosed]
    simp only [followsOn_append hrest]
    cases bracketed? rest <;> rfl

end

/-- The labels of the links of a text, as they are written. -/
def linkLabels (t : Text) : List Text := Text.findAll linkLabel? t

theorem linkLabels_cons_of_none {c : Char} {rest : Text} (h : linkLabel? (c :: rest) = none) :
    linkLabels (c :: rest) = linkLabels rest := Text.findAll_cons_of_none h

theorem linkLabels_append_of_some {taken rest label : Text} (hne : taken ≠ [])
    (h : linkLabel? (taken ++ rest) = some ⟨taken.length, label⟩) :
    linkLabels (taken ++ rest) = label :: linkLabels rest := Text.findAll_append_of_some hne h

/-- Nothing is read before a bracket opens. -/
theorem linkLabels_append_of_not_mem {plain : Text} (h : '[' ∉ plain) (rest : Text) :
    linkLabels (plain ++ rest) = linkLabels rest :=
  Text.findAll_append_of_none (fun c hc => linkLabel?_of_ne (by rintro rfl; exact h hc)) rest

section

variable {label : Text}

/-- A part in brackets gives the label behind it, or itself where that one is empty. -/
theorem linkLabels_labelled (h : Unbracketed label) (hne : label ≠ []) {next : Text} (hnext : Unbracketed next)
    (rest : Text) :
    linkLabels ('[' :: (label ++ ']' :: '[' :: (next ++ ']' :: rest))) =
      (if next.isEmpty then label else next) :: linkLabels rest := by
  have := linkLabels_append_of_some (List.cons_ne_nil _ _) (linkLabel?_full h hne next hnext rest)
  simpa using this

theorem linkLabels_shortcut (h : Unbracketed label) (hne : label ≠ []) {rest : Text} (hrest : ¬ FollowsOn rest) :
    linkLabels ('[' :: (label ++ ']' :: rest)) = label :: linkLabels rest := by
  have := linkLabels_append_of_some (List.cons_ne_nil _ _) (linkLabel?_shortcut h hne hrest)
  simpa using this

theorem linkLabels_hidden (h : Unbracketed label) {rest : Text} (hrest : bracketed? rest = none)
    (hhead : FollowsOn rest) : linkLabels ('[' :: (label ++ ']' :: rest)) = linkLabels rest := by
  have hplain : '[' ∉ label ++ [']'] := by simp [h.not_mem.1]
  have := linkLabels_append_of_not_mem hplain rest
  rw [List.append_assoc, List.singleton_append] at this
  rw [linkLabels_cons_of_none (linkLabel?_of_follower h hrest hhead), this]

theorem linkLabels_empty (rest : Text) : linkLabels ('[' :: ']' :: rest) = linkLabels rest := by
  have hplain : '[' ∉ [']'] := by decide
  rw [linkLabels_cons_of_none (linkLabel?_empty rest), ← linkLabels_append_of_not_mem hplain rest,
    List.singleton_append]

end

theorem reference?_of_ne {c : Char} (h : c ≠ '!') (rest : Text) : reference? (c :: rest) = linkLabel? (c :: rest) := by
  unfold reference?
  split
  · rename_i hc
    exact absurd (List.cons.inj hc).1 h
  · rfl

/-- The mark of an image belongs to the link or to the plain text, which makes no difference to the
labels. -/
theorem findAll_reference? (t : Text) : Text.findAll reference? t = linkLabels t := by
  induction hn : t.length using Nat.strong_induction_on generalizing t with
  | _ n ih =>
    rcases t with _ | ⟨c, rest⟩
    · rfl
    have hrest := ih rest.length (by rw [← hn]; simp) rest rfl
    by_cases hmark : c = '!'
    · subst hmark
      rw [linkLabels_cons_of_none (linkLabel?_of_ne (by decide) rest)]
      cases hl : linkLabel? rest with
      | none =>
        have hr : reference? ('!' :: rest) = none := congrArg (Option.map _) hl
        rw [Text.findAll_cons_of_none hr, hrest]
      | some f =>
        obtain ⟨taken, back, rfl, hne, hf⟩ := linkLabel?_eq_some hl
        have hr : reference? (('!' :: taken) ++ back) = some ⟨('!' :: taken).length, f.value⟩ :=
          congrArg (Option.map _) hf
        have hback := ih back.length (by rw [← hn]; simp) back rfl
        rw [linkLabels_append_of_some hne hf, ← List.cons_append, Text.findAll_append_of_some (by simp) hr, hback]
    · have hr := reference?_of_ne hmark rest
      cases hl : linkLabel? (c :: rest) with
      | none => rw [linkLabels_cons_of_none hl, Text.findAll_cons_of_none (hr.trans hl), hrest]
      | some f =>
        obtain ⟨taken, back, ht, hne, hf⟩ := linkLabel?_eq_some hl
        rw [ht] at hr hn ⊢
        have hpos := List.length_pos_iff.2 hne
        have hback := ih back.length (by rw [← hn, List.length_append]; omega) back rfl
        rw [linkLabels_append_of_some hne hf, Text.findAll_append_of_some hne (hr.trans hf), hback]

/-- Without backticks the labels used are those of the links. -/
theorem usedLabels_of_not_mem {t : Text} (h : backtick ∉ t) : usedLabels t = (linkLabels t).map labelKey := by
  rw [usedLabels, removeCodeSpans_of_not_mem h, findAll_reference?]

end MarkdownStyle
