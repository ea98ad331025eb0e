/-
Inline markup, written and taken away again. A heading is put together from plain text, code spans and
links of two forms. Three passes resolve one kind of part each, and every pass sees what the ones before
it brought together; but no text that a part shows or refers to has a bracket, a parenthesis or a
backtick, so a pass finds its own parts just where they were written and passes over all others. What is
left is the text that the parts show, without the marks of emphasis.
-/
import MarkdownStyle.Proofs.Line.Reading
import MarkdownStyle.Proofs.Text.Scan
import MarkdownStyle.Rule.SentenceCase

namespace MarkdownStyle

/-! ## Patterns -/

section

variable {c : Char} {inner rest : Text}

theorem span_closed (h : c ∉ inner) (rest : Text) : Text.span (· != c) (inner ++ c :: rest) = (inner, c :: rest) :=
  Text.span_eq_iff.2 ⟨rfl, fun d hd => bne_iff_ne.2 fun heq => h (heq ▸ hd), by rintro d ⟨⟩; exact bne_self_eq_false c⟩

theorem codeMark?_of_ne (h : c ≠ backtick) (rest : Text) : codeMark? (c :: rest) = none := by
  unfold codeMark?
  exact if_neg (by simpa using h)

theorem codeMark?_closed (h : backtick ∉ inner) (hne : inner ≠ []) (rest : Text) :
    codeMark? (backtick :: (inner ++ backtick :: rest)) = some ⟨inner.length + 2, []⟩ := by
  obtain ⟨d, inner, rfl⟩ := List.exists_cons_of_ne_nil hne
  unfold codeMark?
  simp only [beq_self_eq_true, if_true, span_closed h]

theorem linkText?_of_ne (h : c ≠ '[') (rest : Text) : linkText? (c :: rest) = none := by
  unfold linkText?
  split
  · rename_i hc
    exact absurd (List.cons.inj hc).1 h
  · rfl

theorem linkText?_closed (h : ']' ∉ inner) (hne : inner ≠ []) (rest : Text) :
    linkText? ('[' :: (inner ++ ']' :: rest)) = some (inner, rest) := by
  obtain ⟨d, inner, rfl⟩ := List.exists_cons_of_ne_nil hne
  unfold linkText?
  simp only [span_closed h]

theorem inlineLink?_of_ne (h : c ≠ '[') (rest : Text) : inlineLink? (c :: rest) = none := by
  unfold inlineLink?
  rw [linkText?_of_ne h]

theorem referenceLink?_of_ne (h : c ≠ '[') (rest : Text) : referenceLink? (c :: rest) = none := by
  unfold referenceLink?
  rw [linkText?_of_ne h]

theorem inlineLink?_closed (h : ']' ∉ inner) (hne : inner ≠ []) {target : Text} (ht : ')' ∉ target) (htne : target ≠ [])
    (rest : Text) : inlineLink? ('[' :: (inner ++ ']' :: '(' :: (target ++ ')' :: rest))) =
      some ⟨inner.length + target.length + 4, inner⟩ := by
  obtain ⟨d, target, rfl⟩ := List.exists_cons_of_ne_nil htne
  unfold inlineLink?
  rw [linkText?_closed h hne]
  simp only [span_closed ht]

theorem referenceLink?_closed (h : ']' ∉ inner) (hne : inner ≠ []) {label : Text} (hl : ']' ∉ label) (rest : Text) :
    referenceLink? ('[' :: (inner ++ ']' :: '[' :: (label ++ ']' :: rest))) =
      some ⟨inner.length + label.length + 4, inner⟩ := by
  unfold referenceLink?
  rw [linkText?_closed h hne]
  simp only [span_closed hl]

/-- A part in brackets without a parenthesis behind it is no inline link. -/
theorem inlineLink?_bracketed (h : ']' ∉ inner) (hrest : rest.head? ≠ some '(') :
    inlineLink? ('[' :: (inner ++ ']' :: rest)) = none := by
  unfold inlineLink?
  rcases eq_or_ne inner [] with rfl | hne
  · rfl
  rw [linkText?_closed h hne]
  split
  · rename_i hp
    obtain ⟨-, rfl⟩ := Prod.mk.inj (Option.some.inj hp)
    exact absurd rfl hrest
  · rfl

/-- What a pattern can only begin with is looked for, and all else is passed over. -/
theorem replaceAll_append_of_not_mem {pattern : Text → Option (Text.Found Text)}
    (hp : ∀ {d}, d ≠ c → ∀ rest, pattern (d :: rest) = none) (h : c ∉ inner) (rest : Text) :
    Text.replaceAll pattern (inner ++ rest) = inner ++ Text.replaceAll pattern rest :=
  Text.replaceAll_append_of_none (fun _ hd => hp fun heq => h (heq ▸ hd)) rest

/-- A part in brackets that is no inline link stays as it is. -/
theorem replaceAll_bracketed (hopen : '[' ∉ inner) (hclose : ']' ∉ inner) (hrest : rest.head? ≠ some '(') :
    Text.replaceAll inlineLink? ('[' :: (inner ++ ']' :: rest)) =
      '[' :: (inner ++ ']' :: Text.replaceAll inlineLink? rest) := by
  have hinner : '[' ∉ inner ++ [']'] := by simp [hopen]
  have hpassed := replaceAll_append_of_not_mem inlineLink?_of_ne hinner rest
  rw [List.append_assoc, List.append_assoc, List.singleton_append, List.singleton_append] at hpassed
  rw [Text.replaceAll_cons_of_none (inlineLink?_bracketed hclose hrest), hpassed]

end

/-! ## Parts of a heading -/

inductive MarkupPart where
  | plain (text : Text)
  | code (inner : Text)
  | inlined (text target : Text)
  /-- A link with a label, which may be empty. -/
  | referred (text label : Text)
deriving DecidableEq

namespace MarkupPart

def written : MarkupPart → Text
  | plain text => text
  | code inner => backtick :: (inner ++ [backtick])
  | inlined text target => '[' :: (text ++ ']' :: '(' :: (target ++ [')']))
  | referred text label => '[' :: (text ++ ']' :: '[' :: (label ++ [']']))

/-- The text that a part shows. Code counts for nothing. -/
def shown : MarkupPart → Text
  | plain text | inlined text _ | referred text _ => text
  | code _ => []

/-- The characters that links and code spans are written with. -/
def marks : List Char := ['[', ']', '(', ')', backtick]

def Unmarked (t : Text) : Prop := ∀ c ∈ t, c ∉ marks

instance : DecidablePred Unmarked := fun t => List.decidableBAll (fun c => c ∉ marks) t

/-- The texts of a part are without marks and not empty where they must not be; code may hold every
mark but its own. -/
def Proper : MarkupPart → Prop
  | plain text => Unmarked text
  | code inner => backtick ∉ inner ∧ inner ≠ []
  | inlined text target => (Unmarked text ∧ text ≠ []) ∧ Unmarked target ∧ target ≠ []
  | referred text label => (Unmarked text ∧ text ≠ []) ∧ Unmarked label

instance : DecidablePred Proper
  | plain text => inferInstanceAs (Decidable (Unmarked text))
  | code inner => inferInstanceAs (Decidable (backtick ∉ inner ∧ inner ≠ []))
  | inlined text target => inferInstanceAs (Decidable ((Unmarked text ∧ text ≠ []) ∧ Unmarked target ∧ target ≠ []))
  | referred text label => inferInstanceAs (Decidable ((Unmarked text ∧ text ≠ []) ∧ Unmarked label))

/-- A heading as its parts are written one after the other. -/
def line (parts : List MarkupPart) : Text := parts.flatMap written

theorem line_cons (part : MarkupPart) (rest : List MarkupPart) : line (part :: rest) = part.written ++ line rest :=
  List.flatMap_cons

/-- What the parts of a heading show, without marks of emphasis. -/
def reading (parts : List MarkupPart) : Text := (parts.flatMap shown).filter fun c => c != '*' && c != '_'

theorem Unmarked.not_mem {t : Text} (h : Unmarked t) {c : Char} (hc : c ∈ marks) : c ∉ t := fun hm => h c hm hc

/-- No part begins with a parenthesis, so none turns a part in brackets in front of it into a link. -/
theorem head?_line {parts : List MarkupPart} (h : ∀ part ∈ parts, part.Proper) : (line parts).head? ≠ some '(' := by
  induction parts with
  | nil => exact (Option.some_ne_none _).symm
  | cons part rest ih =>
    obtain ⟨hpart, hrest⟩ := List.forall_mem_cons.1 h
    rw [line_cons]
    cases part with
    | plain text =>
      cases text with
      | nil => exact ih hrest
      | cons c text =>
        intro heq
        exact hpart c (List.mem_cons_self ..) (by rw [Option.some.inj heq]; decide)
    | code inner => exact fun heq => absurd (Option.some.inj heq) (by decide)
    | inlined text target => exact fun heq => absurd (Option.some.inj heq) (by decide)
    | referred text label => exact fun heq => absurd (Option.some.inj heq) (by decide)

/-! ## Passes -/

/-- The pass that resolves a part, counted from the last one. Plain text needs none. -/
def pass : MarkupPart → Nat
  | plain _ => 0
  | referred .. => 1
  | inlined .. => 2
  | code _ => 3

/-- A part after the pass of a number: plain text if the pass resolves it. -/
def resolved (n : Nat) (part : MarkupPart) : MarkupPart := if part.pass = n then plain part.shown else part

variable {part : MarkupPart} {n : Nat}

theorem proper_resolved (h : part.Proper) : (part.resolved n).Proper := by
  unfold resolved
  split
  · cases part with
    | plain text => exact h
    | code inner => exact fun c hc => absurd hc List.not_mem_nil
    | inlined text target => exact h.1.1
    | referred text label => exact h.1.1
  · exact h

theorem pass_resolved (h : part.pass ≤ n + 1) : (part.resolved (n + 1)).pass ≤ n := by
  unfold resolved
  split
  · exact Nat.zero_le n
  · omega

/-- A pattern that finds, of the parts up to a pass, just those of the pass, and takes all of them. -/
def Reads (pattern : Text → Option (Text.Found Text)) (n : Nat) : Prop :=
  ∀ (part : MarkupPart) (rest : Text), part.Proper → part.pass ≤ n → rest.head? ≠ some '(' →
    Text.replaceAll pattern (part.written ++ rest) = (part.resolved n).written ++ Text.replaceAll pattern rest

theorem codeMark?_reads : Reads codeMark? 3 := by
  have hmarks : backtick ≠ '[' ∧ backtick ≠ ']' ∧ backtick ≠ '(' ∧ backtick ≠ ')' := by decide
  have hskip : ∀ {t : Text}, backtick ∉ t → ∀ rest, Text.replaceAll codeMark? (t ++ rest) = t ++ _ :=
    replaceAll_append_of_not_mem codeMark?_of_ne
  intro part rest h _ _
  cases part with
  | plain text => exact hskip (h.not_mem (by decide)) rest
  | code inner =>
    have hfound : codeMark? (written (code inner) ++ rest) = some ⟨(written (code inner)).length, []⟩ := by
      have := codeMark?_closed h.1 h.2 rest
      simpa [written] using this
    exact Text.replaceAll_append_of_some (List.cons_ne_nil _ _) hfound
  | inlined text target =>
    obtain ⟨⟨htext, -⟩, htarget, -⟩ := h
    have htick : backtick ∉ text ∧ backtick ∉ target := ⟨htext.not_mem (by decide), htarget.not_mem (by decide)⟩
    exact hskip (by simp [written, hmarks, htick]) rest
  | referred text label =>
    obtain ⟨⟨htext, -⟩, hlabel⟩ := h
    have htick : backtick ∉ text ∧ backtick ∉ label := ⟨htext.not_mem (by decide), hlabel.not_mem (by decide)⟩
    exact hskip (by simp [written, hmarks, htick]) rest

theorem inlineLink?_reads : Reads inlineLink? 2 := by
  intro part rest h hpass hrest
  cases part with
  | plain text => exact replaceAll_append_of_not_mem inlineLink?_of_ne (h.not_mem (by decide)) rest
  | code inner => exact absurd hpass (by simp [pass])
  | inlined text target =>
    obtain ⟨⟨htext, hne⟩, htarget, htne⟩ := h
    have hfound : inlineLink? (written (inlined text target) ++ rest) =
        some ⟨(written (inlined text target)).length, text⟩ := by
      have := inlineLink?_closed (htext.not_mem (by decide)) hne (htarget.not_mem (by decide)) htne rest
      simp [written, this]
      omega
    exact Text.replaceAll_append_of_some (List.cons_ne_nil _ _) hfound
  | referred text label =>
    -- two parts in brackets, and neither has a parenthesis behind it
    obtain ⟨⟨htext, -⟩, hlabel⟩ := h
    have hsecond := replaceAll_bracketed (hlabel.not_mem (by decide)) (hlabel.not_mem (by decide)) hrest
    have hbracket : ('[' :: (label ++ ']' :: rest)).head? ≠ some '(' := by simp
    have hfirst := replaceAll_bracketed (htext.not_mem (by decide)) (htext.not_mem (by decide)) hbracket
    rw [hsecond] at hfirst
    simpa [written, resolved, pass] using hfirst

theorem referenceLink?_reads : Reads referenceLink? 1 := by
  intro part rest h hpass _
  cases part with
  | plain text => exact replaceAll_append_of_not_mem referenceLink?_of_ne (h.not_mem (by decide)) rest
  | code inner => exact absurd hpass (by simp [pass])
  | inlined text target => exact absurd hpass (by simp [pass])
  | referred text label =>
    obtain ⟨⟨htext, hne⟩, hlabel⟩ := h
    have hfound : referenceLink? (written (referred text label) ++ rest) =
        some ⟨(written (referred text label)).length, text⟩ := by
      have := referenceLink?_closed (htext.not_mem (by decide)) hne (hlabel.not_mem (by decide)) rest
      simp [written, this]
      omega
    exact Text.replaceAll_append_of_some (List.cons_ne_nil _ _) hfound

/-- A pass resolves its parts and leaves the others as they are written. -/
theorem Reads.replaceAll_line {pattern : Text → Option (Text.Found Text)}
    (hr : Reads pattern n) {parts : List MarkupPart}
    (h : ∀ part ∈ parts, part.Proper ∧ part.pass ≤ n) :
    Text.replaceAll pattern (line parts) = line (parts.map (resolved n)) := by
  induction parts with
  | nil => rfl
  | cons part rest ih =>
    obtain ⟨⟨hproper, hpass⟩, hrest⟩ := List.forall_mem_cons.1 h
    rw [line_cons, hr part _ hproper hpass (head?_line fun p hp => (hrest p hp).1), ih hrest, List.map_cons, line_cons]

/-- The three passes, from code spans to links with labels, leave the text that is shown. -/
theorem replaceAll_passes {parts : List MarkupPart} (h : ∀ part ∈ parts, part.Proper) :
    Text.replaceAll referenceLink? (Text.replaceAll inlineLink? (Text.replaceAll codeMark? (line parts))) =
      parts.flatMap shown := by
  have hstep : ∀ {n : Nat} {parts : List MarkupPart}, (∀ part ∈ parts, part.Proper ∧ part.pass ≤ n + 1) →
      ∀ part ∈ parts.map (resolved (n + 1)), part.Proper ∧ part.pass ≤ n := by
    intro n parts h part hpart
    obtain ⟨p, hp, rfl⟩ := List.mem_map.1 hpart
    exact ⟨proper_resolved (h p hp).1, pass_resolved (h p hp).2⟩
  have h3 : ∀ part ∈ parts, part.Proper ∧ part.pass ≤ 3 := fun part hpart =>
    ⟨h part hpart, by cases part <;> simp [pass]⟩
  rw [codeMark?_reads.replaceAll_line h3, inlineLink?_reads.replaceAll_line (hstep h3),
    referenceLink?_reads.replaceAll_line (hstep (hstep h3)), line, List.map_map, List.map_map, List.flatMap_map]
  refine List.flatMap_congr fun part hpart => ?_
  cases part <;> rfl

/-- What is left of a heading is what its parts show without the marks of emphasis, whatever the order of
the parts and wherever they touch. So the capitals that are reported depend on nothing else: a heading in
which words are emphasized or turned into links has those of the heading without. -/
theorem withoutMarkup_line {parts : List MarkupPart} (h : ∀ part ∈ parts, part.Proper) :
    withoutMarkup (line parts) = reading parts ∧
      ∀ plainer : List MarkupPart, (∀ part ∈ plainer, part.Proper) → reading plainer = reading parts →
        ∀ allowed ignoreAcronyms,
          needlessCapitals (line parts) allowed ignoreAcronyms =
            needlessCapitals (line plainer) allowed ignoreAcronyms := by
  have hread : ∀ {parts : List MarkupPart}, (∀ part ∈ parts, part.Proper) →
      withoutMarkup (line parts) = reading parts := by
    intro parts h
    rw [withoutMarkup, replaceAll_passes h, reading]
  refine ⟨hread h, fun plainer hp heq allowed ignoreAcronyms => ?_⟩
  rw [needlessCapitals, needlessCapitals, hread h, hread hp, heq]

/-- Parts without a space in between, and code with the marks of a link in it. -/
theorem withoutMarkup_line_of_neighbours :
    let parts := [.plain "Use ".toList, .referred "*the*".toList [], .code "](x)".toList, .plain " _".toList,
      .inlined "New".toList "u".toList, .plain "_ ".toList, .inlined "A".toList "u".toList,
      .referred "pi".toList "b*".toList]
    line parts = "Use [*the*][]`](x)` _[New](u)_ [A](u)[pi][b*]".toList ∧
      withoutMarkup (line parts) = "Use the New Api".toList ∧
        ∀ allowed, needlessCapitals (line parts) allowed true =
          needlessCapitals "Use the New Api".toList allowed true := by
  intro parts
  have hproper : ∀ part ∈ parts, part.Proper := by decide
  obtain ⟨hread, hcapitals⟩ := withoutMarkup_line hproper
  refine ⟨by decide, hread.trans (by decide), fun allowed => ?_⟩
  exact hcapitals [.plain "Use the New Api".toList] (by decide) (by decide) allowed true

end MarkupPart

end MarkdownStyle
