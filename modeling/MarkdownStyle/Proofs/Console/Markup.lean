/-
Escaped texts. An escape reads a text piece by piece, as the scan for tags does, and puts an odd number of
backslashes in front of each tag; so it changes a text by backslashes only, and does so where it has tags.
-/
import MarkdownStyle.Command.Linter
import MarkdownStyle.Console.Markup
import MarkdownStyle.Proofs.Text.Scan
import MarkdownStyle.Proofs.Text.Trim

namespace MarkdownStyle.Markup

/-! ## Tags -/

section

variable {t tag : Text}

theorem tagRest?_eq_some {inner : Text} (h : tagRest? t = some inner) :
    ∃ back, t = inner ++ back ∧ ∀ z, tagRest? (inner ++ z) = some inner := by
  induction t generalizing inner with
  | nil => cases h
  | cons c t ih =>
    rw [tagRest?] at h
    split at h
    · rename_i hclose
      cases h
      exact ⟨t, rfl, fun z => by rw [List.singleton_append, tagRest?, if_pos hclose]⟩
    · split at h
      · cases h
      · rename_i hclose hopen
        obtain ⟨more, hmore, rfl⟩ := Option.map_eq_some_iff.1 h
        obtain ⟨back, rfl, hread⟩ := ih hmore
        refine ⟨back, rfl, fun z => ?_⟩
        rw [List.cons_append, tagRest?, if_neg hclose, if_neg hopen, hread, Option.map_some]

/-- A tag, which is read as such whatever stands behind it. -/
def IsTag (tag : Text) : Prop := ∀ z, tag? (tag ++ z) = some tag

theorem IsTag.eq_cons (h : IsTag tag) : ∃ inner, tag = '[' :: inner := by
  have hread := h []
  rw [List.append_nil] at hread
  unfold tag? at hread
  split at hread
  · exact ⟨_, rfl⟩
  · cases hread

theorem tag?_eq_some (h : tag? t = some tag) : IsTag tag ∧ ∃ back, t = tag ++ back := by
  unfold tag? at h
  split at h
  · split at h
    · rename_i hfirst
      obtain ⟨inner, hinner, rfl⟩ := Option.map_eq_some_iff.1 h
      obtain ⟨back, rfl, hread⟩ := tagRest?_eq_some hinner
      refine ⟨fun z => ?_, back, rfl⟩
      rw [List.cons_append, List.cons_append, tag?, if_pos hfirst, hread, Option.map_some]
    · cases h
  · cases h

/-! ## Tags behind backslashes -/

theorem span_backslashes {c : Char} (hc : c ≠ '\\') (n : Nat) (rest : Text) :
    Text.span (· == '\\') (List.replicate n '\\' ++ c :: rest) = (List.replicate n '\\', c :: rest) :=
  Text.span_eq_iff.2 ⟨rfl, fun d hd => beq_iff_eq.2 (List.eq_of_mem_replicate hd),
    by rintro d ⟨⟩; exact beq_eq_false_iff_ne.2 hc⟩

theorem escaped?_eq (t : Text) :
    escaped? t = (tag? (t.dropWhile (· == '\\'))).map fun tag =>
      ⟨(t.takeWhile (· == '\\')).length + tag.length, (t.takeWhile (· == '\\')).length, tag⟩ := by
  have hdrop := @List.drop_left _ (t.takeWhile (· == '\\')) (t.dropWhile (· == '\\'))
  rw [List.takeWhile_append_dropWhile] at hdrop
  unfold escaped?
  simp only [hdrop]

theorem escaped?_tag (h : IsTag tag) (n : Nat) (back : Text) :
    escaped? (List.replicate n '\\' ++ (tag ++ back)) = some ⟨n + tag.length, n, tag⟩ := by
  obtain ⟨inner, rfl⟩ := h.eq_cons
  have hspan := span_backslashes (by decide : '[' ≠ '\\') n (inner ++ back)
  obtain ⟨hfront, hback⟩ := Prod.mk.inj hspan
  rw [List.cons_append, escaped?_eq, hfront, hback, ← List.cons_append, h back, List.length_replicate]
  rfl

theorem escaped?_eq_some {f : Text.Found Escaped} (h : escaped? t = some f) :
    ∃ n tag back, IsTag tag ∧ t = List.replicate n '\\' ++ (tag ++ back) := by
  rw [escaped?_eq] at h
  obtain ⟨tag, htag, -⟩ := Option.map_eq_some_iff.1 h
  obtain ⟨hread, back, hback⟩ := tag?_eq_some htag
  obtain ⟨hsplit, hslashes, -⟩ := Text.span_eq_iff.1 (rfl : Text.span (· == '\\') t = _)
  have hreplicate := List.eq_replicate_of_mem fun c hc => beq_iff_eq.1 (hslashes c hc)
  exact ⟨_, tag, back, hread, by rw [← hback, ← hreplicate, ← hsplit]⟩

/-- Texts are built from their ends: by a character with which no tag begins, or by a tag and the
backslashes in front of it. -/
theorem text_induction {motive : Text → Prop} (nil : motive [])
    (plain : ∀ c rest, escaped? (c :: rest) = none → motive rest → motive (c :: rest))
    (tagged : ∀ n tag rest, IsTag tag → motive rest → motive (List.replicate n '\\' ++ (tag ++ rest))) (t : Text) :
    motive t := by
  induction hl : t.length using Nat.strong_induction_on generalizing t with
  | _ l ih =>
    rcases t with _ | ⟨c, rest⟩
    · exact nil
    cases hread : escaped? (c :: rest) with
    | none => exact plain c rest hread (ih rest.length (by simp [← hl]) rest rfl)
    | some f =>
      obtain ⟨n, tag, back, htag, heq⟩ := escaped?_eq_some hread
      rw [heq] at hl ⊢
      refine tagged n tag back htag (ih back.length ?_ back rfl)
      obtain ⟨inner, rfl⟩ := htag.eq_cons
      simp only [List.length_append, List.length_cons] at hl
      omega

theorem scan_tag (h : IsTag tag) (n : Nat) (back : Text) :
    Text.scan escaped? (List.replicate n '\\' ++ (tag ++ back)) = .found ⟨n, tag⟩ :: Text.scan escaped? back := by
  have hne : List.replicate n '\\' ++ tag ≠ [] := by
    obtain ⟨inner, rfl⟩ := h.eq_cons
    simp
  have hread := escaped?_tag h n back
  rw [← List.append_assoc] at hread ⊢
  exact Text.scan_append_of_some hne (by rw [hread, List.length_append, List.length_replicate])

/-- Without brackets there are no tags. -/
theorem scan_of_not_mem (h : '[' ∉ t) : Text.scan escaped? t = t.map .plain := by
  induction t with
  | nil => rfl
  | cons c rest ih =>
    have hnone : escaped? (c :: rest) = none := by
      rw [Option.eq_none_iff_forall_ne_some]
      intro f hf
      obtain ⟨n, tag, back, htag, heq⟩ := escaped?_eq_some hf
      obtain ⟨inner, rfl⟩ := htag.eq_cons
      exact h (heq ▸ by simp)
    rw [Text.scan_cons_of_none hnone, ih fun hm => h (List.mem_cons_of_mem _ hm), List.map_cons]

end

/-! ## Escaping -/

/-- A text whose tags are escaped. -/
def marked (t : Text) : Text :=
  (Text.scan escaped? t).flatMap fun
    | .plain c => [c]
    | .found e => List.replicate (2 * e.backslashes + 1) '\\' ++ e.tag

section

variable {t tag : Text}

theorem marked_cons {c : Char} {rest : Text} (h : escaped? (c :: rest) = none) :
    marked (c :: rest) = c :: marked rest := by
  rw [marked, Text.scan_cons_of_none h]
  rfl

theorem marked_tag (h : IsTag tag) (n : Nat) (back : Text) :
    marked (List.replicate n '\\' ++ (tag ++ back)) = List.replicate (2 * n + 1) '\\' ++ (tag ++ marked back) := by
  rw [marked, scan_tag h, List.flatMap_cons, ← List.append_assoc]
  rfl

theorem marked_of_not_mem (h : '[' ∉ t) : marked t = t := by
  rw [marked, scan_of_not_mem h, List.flatMap_map]
  exact List.flatMap_singleton' t

theorem exists_closeBackslash (t : Text) : ∃ k, closeBackslash t = t ++ List.replicate k '\\' := by
  unfold closeBackslash
  split
  · rename_i h
    exact ⟨1, by rw [List.reverse_eq_iff.1 h]; rfl⟩
  · split
    · exact ⟨0, (List.append_nil t).symm⟩
    · exact ⟨1, rfl⟩
  · exact ⟨0, (List.append_nil t).symm⟩

theorem closeBackslash_of_not_mem (h : '\\' ∉ t) : closeBackslash t = t := by
  unfold closeBackslash
  rw [← List.mem_reverse] at h
  split
  · rename_i hslash
    exact absurd (by simp [hslash]) h
  · rename_i hslash
    exact absurd (by simp [hslash]) h
  · rfl

theorem exists_escape (t : Text) : ∃ k, escape t = marked t ++ List.replicate k '\\' := exists_closeBackslash (marked t)

end

/-! ## The laws of escaping -/

/-- Nothing but backslashes in front of tags is put into a text. -/
theorem marked_eq_self {t : Text} (h : '\\' ∉ marked t) : marked t = t := by
  induction t using text_induction with
  | nil => rfl
  | plain c rest hread ih =>
    rw [marked_cons hread] at h ⊢
    rw [ih fun hm => h (List.mem_cons_of_mem _ hm)]
  | tagged n tag rest htag ih =>
    rw [marked_tag htag, List.replicate_succ] at h
    exact absurd (List.mem_cons_self ..) h

theorem tagRest?_style {style : Text} (h : ∀ c ∈ style, 'a' ≤ c ∧ c ≤ 'z') (rest : Text) :
    tagRest? (style ++ ']' :: rest) = some (style ++ [']']) := by
  induction style with
  | nil => rfl
  | cons c style ih =>
    obtain ⟨⟨hlow, hhigh⟩, hstyle⟩ := List.forall_mem_cons.1 h
    -- no bracket is a small letter
    have hclose : ¬ (c == ']') = true := by
      rw [beq_iff_eq]
      rintro rfl
      exact absurd hlow (by decide)
    have hopen : ¬ (c == '[') = true := by
      rw [beq_iff_eq]
      rintro rfl
      exact absurd hlow (by decide)
    rw [List.cons_append, tagRest?, if_neg hclose, if_neg hopen, ih hstyle]
    rfl

/-- A style in brackets is a tag. -/
theorem isTag_style {style : Text} (hne : style ≠ []) (h : ∀ c ∈ style, 'a' ≤ c ∧ c ≤ 'z') :
    IsTag ('[' :: (style ++ [']'])) := by
  intro z
  cases style with
  | nil => exact absurd rfl hne
  | cons c style =>
    obtain ⟨⟨hlow, hhigh⟩, hstyle⟩ := List.forall_mem_cons.1 h
    have hfirst : (('a' ≤ c && c ≤ 'z') || c == '#' || c == '/' || c == '@') = true := by
      simp [hlow, hhigh]
    rw [List.cons_append, List.cons_append, List.cons_append, tag?, if_pos hfirst, List.append_assoc,
      List.singleton_append, tagRest?_style hstyle, Option.map_some]

theorem escapesMarkup_escape : EscapesMarkup escape where
  plain t hopen hslash := by
    show closeBackslash (marked t) = t
    rw [marked_of_not_mem hopen, closeBackslash_of_not_mem hslash]
  unchanged t h := by
    have hmarked : '\\' ∉ marked t := by
      obtain ⟨n, hn⟩ := exists_escape t
      rw [hn] at h
      exact fun hm => h (List.mem_append_left _ hm)
    show closeBackslash (marked t) = t
    rw [closeBackslash_of_not_mem hmarked, marked_eq_self hmarked]
  tagged style rest hne hstyle := by
    obtain ⟨n, hn⟩ := exists_escape ('[' :: (style ++ ']' :: rest))
    have hsplit : '[' :: (style ++ ']' :: rest) = List.replicate 0 '\\' ++ ('[' :: (style ++ [']']) ++ rest) := by
      simp
    rw [hn, hsplit, marked_tag (isTag_style hne hstyle)]
    rfl

end MarkdownStyle.Markup
