/-
Allowed words in headings. A word of a heading is looked up by its letters alone, an entry of the options
is taken as it is written. Where every word is an entry, the report is therefore not always empty: it names
just those words that have other characters around their letters, and whose letters are no entry.
-/
import MarkdownStyle.Proofs.Line.Reading
import MarkdownStyle.Proofs.Rule.Findings

namespace MarkdownStyle

/-! ## Letters of a word -/

/-- A word is a run of letters with other characters before and after it. -/
structure Surrounds (word before letters after : Text) : Prop where
  eq_append : word = before ++ (letters ++ after)
  ne_nil : letters ≠ []
  letters : ∀ c ∈ letters, Text.isLetter c = true
  others : ∀ c ∈ before ++ after, Text.isLetter c = false

theorem Surrounds.wordLetters?_eq {word before letters after : Text} (h : Surrounds word before letters after) :
    wordLetters? word = some letters := by
  have hbefore : ∀ c ∈ before, (!Text.isLetter c) = true := fun c hc => by
    rw [h.others c (List.mem_append_left _ hc), Bool.not_false]
  have hdrop : word.dropWhile (fun c => !Text.isLetter c) = letters ++ after := by
    rw [h.eq_append, List.dropWhile_append_of_pos hbefore]
    obtain ⟨c, rest, rfl⟩ := List.exists_cons_of_ne_nil h.ne_nil
    exact List.dropWhile_cons_of_neg (by simp [h.letters c (List.mem_cons_self ..)])
  have hspan : Text.span Text.isLetter (letters ++ after) = (letters, after) :=
    Text.span_eq_iff.2 ⟨rfl, h.letters, fun c hc =>
      h.others c (List.mem_append_right _ (List.mem_of_mem_head? hc))⟩
  have hafter : after.any Text.isLetter = false := by
    rw [List.any_eq_false]
    intro c hc
    rw [h.others c (List.mem_append_right _ hc)]
    exact Bool.false_ne_true
  unfold wordLetters?
  rw [hdrop, hspan]
  simp [h.ne_nil, hafter]

theorem wordLetters?_eq_some_iff {word letters : Text} :
    wordLetters? word = some letters ↔ ∃ before after, Surrounds word before letters after := by
  constructor
  · intro h
    unfold wordLetters? at h
    cases hspan : Text.span Text.isLetter (word.dropWhile fun c => !Text.isLetter c) with | mk run after =>
    obtain ⟨hrest, hrun, -⟩ := Text.span_eq_iff.1 hspan
    simp only [hspan] at h
    split at h
    · cases h
    · rename_i hok
      cases h
      simp only [Bool.or_eq_true, List.isEmpty_iff, List.any_eq_true, not_or, not_exists, not_and,
        Bool.not_eq_true] at hok
      refine ⟨word.takeWhile fun c => !Text.isLetter c, after, ?_, hok.1, hrun, fun c hc => ?_⟩
      · rw [← hrest, List.takeWhile_append_dropWhile]
      · rcases List.mem_append.1 hc with hc | hc
        · simpa using List.all_eq_true.1 List.all_takeWhile c hc
        · exact hok.2 c hc
  · rintro ⟨before, after, h⟩
    exact h.wordLetters?_eq

namespace SentenceCase

/-! ## What is reported -/

/-- The words of a heading after the first one. -/
def laterWords (heading : Text) : List Text := (Text.words (withoutMarkup heading)).drop 1

/-- Every word after the first is an entry of a list, except for its case. -/
def Listed (extra : List String) (heading : Text) : Prop :=
  ∀ word ∈ laterWords heading, ∃ entry ∈ extra, Text.lower word = Text.lower entry.toList

instance (extra : List String) (heading : Text) : Decidable (Listed extra heading) :=
  inferInstanceAs (Decidable (∀ word ∈ laterWords heading, ∃ entry ∈ extra,
    Text.lower word = Text.lower entry.toList))

/-- The letters of a longer word that are taken for a word which should not have its capital. -/
structure CutOut (extra : List String) (ignoreAcronyms : Bool) (word letters : Text) : Prop where
  longer : ∃ before after, Surrounds word before letters after ∧ before ++ after ≠ []
  capital : letters.head?.any Text.isUpperChar = true
  unknown : Text.lower letters ∉ allowedWords extra
  acronym : ignoreAcronyms = true → Text.isUpper letters = false

section

variable {extra : List String} {ignoreAcronyms : Bool} {heading word letters : Text}

theorem mem_allowedWords {entry : String} (h : entry ∈ extra) : Text.lower entry.toList ∈ allowedWords extra :=
  List.mem_map_of_mem (List.mem_append_right _ h)

theorem needlessCapital?_eq_some_iff :
    needlessCapital? (allowedWords extra) ignoreAcronyms word = some letters ↔
      wordLetters? word = some letters ∧ letters.head?.any Text.isUpperChar = true ∧
        Text.lower letters ∉ allowedWords extra ∧ (ignoreAcronyms = true → Text.isUpper letters = false) := by
  unfold needlessCapital?
  rw [Option.filter_eq_some_iff]
  simp only [Bool.and_eq_true, Bool.not_eq_true', List.contains_eq_mem, decide_eq_false_iff_not, Bool.and_eq_false_imp,
    and_assoc]

theorem mem_needlessCapitals_iff (h : Listed extra heading) :
    letters ∈ needlessCapitals heading (allowedWords extra) ignoreAcronyms ↔
      ∃ word ∈ laterWords heading, CutOut extra ignoreAcronyms word letters := by
  unfold needlessCapitals
  rw [List.mem_filterMap]
  constructor
  · rintro ⟨word, hword, hneedless⟩
    obtain ⟨hletters, hcapital, hunknown, hacronym⟩ := needlessCapital?_eq_some_iff.1 hneedless
    obtain ⟨before, after, hsurrounds⟩ := wordLetters?_eq_some_iff.1 hletters
    refine ⟨word, hword, ⟨before, after, hsurrounds, fun hempty => ?_⟩, hcapital, hunknown, hacronym⟩
    -- a word of letters only is looked up as it is, and found
    obtain ⟨entry, hentry, hlower⟩ := h word hword
    obtain ⟨rfl, rfl⟩ := List.append_eq_nil_iff.1 hempty
    have hword : word = letters := by simpa using hsurrounds.eq_append
    rw [← hword, hlower] at hunknown
    exact hunknown (mem_allowedWords hentry)
  · rintro ⟨word, hword, ⟨before, after, hsurrounds, -⟩, hcapital, hunknown, hacronym⟩
    exact ⟨word, hword,
      needlessCapital?_eq_some_iff.2 ⟨hsurrounds.wordLetters?_eq, hcapital, hunknown, hacronym⟩⟩

theorem finding?_eq_none_iff {allowed : List Text} {h : Heading} :
    finding? allowed ignoreAcronyms h = none ↔ needlessCapitals h.text allowed ignoreAcronyms = [] := by
  unfold finding?
  split
  · rename_i hnone
    exact iff_of_true rfl hnone
  · rename_i hsome
    exact iff_of_false (Option.some_ne_none _) hsome

end

/-- The check finds fault with a heading iff the heading has needless capitals. -/
theorem exists_found_iff {d : Document} {o : Options} {found : List Finding}
    (hfound : sentenceCaseRule.check d o = .ok found) {h : Heading} (hm : h ∈ headings d.classified) :
    (∃ f ∈ found, f.line = h.line) ↔
      needlessCapitals h.text (allowedWords (o.strings "allowed_words" []))
        (o.flag "ignore_acronyms" true) ≠ [] := by
  cases hfound
  rw [ne_eq, ← finding?_eq_none_iff, ← ne_eq, Option.ne_none_iff_exists']
  constructor
  · rintro ⟨f, hf, hline⟩
    obtain ⟨g, hg, hgf⟩ := List.mem_filterMap.1 hf
    -- headings have lines of their own, so the finding is about this one
    rw [line_of_finding? hgf] at hline
    rw [d.classified_eq] at hg hm
    rw [(headings_classify_fit d.lines).eq_of_line hg hm (Int.ofNat.inj hline)] at hgf
    exact ⟨f, hgf⟩
  · rintro ⟨f, hf⟩
    exact ⟨f, List.mem_filterMap.2 ⟨h, hm, hf⟩, line_of_finding? hf⟩

/-- Of words that are all allowed except for their case, the rule reports exactly the letters that it
cuts out of longer ones. A heading of a document is found at fault iff it has such a word. -/
theorem needlessCapitals_of_listed {extra : List String} {heading : Text} (h : Listed extra heading)
    (ignoreAcronyms : Bool) :
    (∀ letters, letters ∈ needlessCapitals heading (allowedWords extra) ignoreAcronyms ↔
        ∃ word ∈ laterWords heading, CutOut extra ignoreAcronyms word letters) ∧
      ∀ (d : Document) (o : Options), o.strings "allowed_words" [] = extra →
        o.flag "ignore_acronyms" true = ignoreAcronyms → ∃ found, sentenceCaseRule.check d o = .ok found ∧
          ∀ hd ∈ headings d.classified, hd.text = heading → ((∃ f ∈ found, f.line = hd.line) ↔
            ∃ word ∈ laterWords heading, ∃ letters, CutOut extra ignoreAcronyms word letters) := by
  refine ⟨fun letters => mem_needlessCapitals_iff h, ?_⟩
  rintro d o rfl rfl
  refine ⟨_, rfl, ?_⟩
  rintro hd hmem rfl
  rw [exists_found_iff rfl hmem]
  constructor
  · intro hne
    obtain ⟨letters, hletters⟩ := List.exists_mem_of_ne_nil _ hne
    obtain ⟨word, hword, hcut⟩ := (mem_needlessCapitals_iff h).1 hletters
    exact ⟨word, hword, letters, hcut⟩
  · rintro ⟨word, hword, letters, hcut⟩
    exact List.ne_nil_of_mem ((mem_needlessCapitals_iff h).2 ⟨word, hword, hcut⟩)

theorem needlessCapitals_of_listed_okta :
    let extra := ["auth0", "okta"]
    let heading := "Using Auth0 Okta".toList
    Listed extra heading ∧ needlessCapitals heading (allowedWords extra) true = ["Auth".toList] ∧
      ∃ word ∈ laterWords heading, CutOut extra true word "Auth".toList := by
  have hlisted : Listed ["auth0", "okta"] "Using Auth0 Okta".toList := by decide
  have hreport : needlessCapitals "Using Auth0 Okta".toList (allowedWords ["auth0", "okta"]) true =
      ["Auth".toList] := by decide +kernel
  exact ⟨hlisted, hreport, ((needlessCapitals_of_listed hlisted true).1 _).1 (hreport ▸ List.mem_singleton_self _)⟩

/-- An entry with a digit is of no use: the word is looked up without it. -/
theorem needlessCapitals_of_listed_ne_nil :
    Listed ["Auth0"] "Using Auth0".toList ∧
      needlessCapitals "Using Auth0".toList (allowedWords ["Auth0"]) true ≠ [] := ⟨by decide, by decide +kernel⟩

end SentenceCase

end MarkdownStyle
