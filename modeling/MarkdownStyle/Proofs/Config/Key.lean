/-
The keys of a configuration that stand for a built-in rule: its name, or its id in any letter case.
Keys are compared in full upper case, under which a character can become several; but no character
besides the small and the capital one becomes a letter of an id, and none besides itself a digit. So
every key stands for at most one rule, and the key for the state of all others for none.
-/
import MarkdownStyle.Proofs.Linter.Builtin

namespace MarkdownStyle

/-! ## Letters of ids -/

/-- The characters that ids of built-in rules are made of. -/
def idChars : List Char := "HM0123456789".toList

/-- The shifts to upper case reach a character of an id from its small letter alone. -/
theorem shifts_idChars {s : Shift} (hs : s ∈ Text.upperMap.shifts) {x : Char} (hx : x ∈ idChars)
    (h : s.hasPoint (x.toNat - s.shift).toNat = true) : (Char.ofNat (x.toNat - s.shift).toNat).toUpper = x := by
  have hall : (Text.upperMap.shifts.all fun s => idChars.all fun x =>
      !s.hasPoint (x.toNat - s.shift).toNat || (Char.ofNat (x.toNat - s.shift).toNat).toUpper == x) = true := by
    decide +kernel
  simpa [h] using List.all_eq_true.1 (List.all_eq_true.1 hall s hs) x hx

/-- Where a character becomes several, not all of them are found in ids. -/
theorem expansions_idChars {e : Nat × List Nat} (he : e ∈ Text.upperMap.expansions) :
    ∃ x ∈ e.2.map Char.ofNat, x ∉ idChars := by
  have hall : (Text.upperMap.expansions.all fun e => (e.2.map Char.ofNat).any fun x => !idChars.contains x) = true := by
    decide +kernel
  obtain ⟨x, hx, hnot⟩ := List.any_eq_true.1 (List.all_eq_true.1 hall e he)
  exact ⟨x, hx, by simpa using hnot⟩

theorem image_idChars {x : Char} (hx : x ∈ idChars) : x.toUpper = x ∧ Text.upperMap.image x = [x] := by
  have hall : (idChars.all fun x => x.toUpper == x && Text.upperMap.image x == [x]) = true := by
    decide +kernel
  simpa using List.all_eq_true.1 hall x hx

theorem toNat_of_ofNat_ne {n : Nat} (h : Char.ofNat n ≠ Char.ofNat 0) : (Char.ofNat n).toNat = n := by
  unfold Char.ofNat at h ⊢
  by_cases hn : n.isValidChar
  · rw [dif_pos hn]
    rfl
  · rw [dif_neg hn] at h
    exact absurd rfl h

/-- A character whose capitals are all found in ids has one, the capital of its letter. -/
theorem image_of_subset {c : Char} (h : ∀ x ∈ Text.upperMap.image c, x ∈ idChars) :
    Text.upperMap.image c = [c.toUpper] := by
  unfold CharMap.image at h ⊢
  split at h
  · rename_i s hs
    have hid := h _ (List.mem_singleton.2 rfl)
    have hne : Char.ofNat (c.toNat + s.shift).toNat ≠ Char.ofNat 0 := by
      intro h0
      rw [h0] at hid
      exact absurd hid (by decide)
    have hx := toNat_of_ofNat_ne hne
    have hpos : 0 < (Char.ofNat (c.toNat + s.shift).toNat).toNat :=
      Nat.pos_of_ne_zero fun h0 => hne (Char.toNat_inj.1 h0)
    have hback : ((Char.ofNat (c.toNat + s.shift).toNat).toNat - s.shift).toNat = c.toNat := by
      omega
    have hpoint : s.hasPoint c.toNat = true :=
      List.find?_some (p := fun s : Shift => s.hasPoint c.toNat) hs
    have hupper := shifts_idChars (List.mem_of_find?_eq_some hs) hid (by rwa [hback])
    rw [hback, Char.ofNat_toNat] at hupper
    rw [hupper]
  · split at h
    · rename_i points hpoints
      obtain ⟨before, after, hsplit, -⟩ := List.lookup_eq_some_iff.1 hpoints
      obtain ⟨x, hx, hnot⟩ := @expansions_idChars (c.toNat, points) (by simp [hsplit])
      exact absurd (h x hx) hnot
    · rw [(image_idChars (h c (List.mem_singleton.2 rfl))).1]

theorem image_of_toUpper {c : Char} (h : c.toUpper ∈ idChars) : Text.upperMap.image c = [c.toUpper] := by
  by_cases hsmall : 'a'.toNat ≤ c.toNat ∧ c.toNat ≤ 'z'.toNat
  · have hall : ∀ n ∈ List.range' 'a'.toNat 26, (Char.ofNat n).toUpper ∈ idChars →
        Text.upperMap.image (Char.ofNat n) = [(Char.ofNat n).toUpper] := by
      decide +kernel
    have := hall c.toNat (List.mem_range'_1.2 ⟨hsmall.1, Nat.lt_succ_of_le hsmall.2⟩)
    rw [Char.ofNat_toNat] at this
    exact this h
  · have hself : c.toUpper = c := by
      unfold Char.toUpper
      exact dif_neg hsmall
    rw [hself] at h ⊢
    exact (image_idChars h).2

/-- A text becomes an id in full upper case exactly if its characters are those of the id, each in
either case. -/
theorem upper_eq_iff {s t : Text} (ht : ∀ x ∈ t, x ∈ idChars) : Text.upper s = t ↔ s.map Char.toUpper = t := by
  have hmap : (∀ c ∈ s, Text.upperMap.image c = [c.toUpper]) → Text.upper s = s.map Char.toUpper := by
    intro h
    unfold Text.upper
    rw [List.map_eq_flatMap, List.flatMap_def, List.flatMap_def, List.map_congr_left h]
  constructor
  · rintro rfl
    refine (hmap fun c hc => image_of_subset fun x hx => ht x ?_).symm
    exact List.mem_flatMap.2 ⟨c, hc, hx⟩
  · rintro rfl
    exact hmap fun c hc => image_of_toUpper (ht _ (List.mem_map_of_mem hc))

/-! ## Keys of rules -/

/-- The keys of a rule: its name, and its id with letters of either case. -/
def Rule.KnownAs (r : Rule) (key : String) : Prop :=
  key = r.name ∨ key.toList.map Char.toUpper = r.id.toList

instance (r : Rule) (key : String) : Decidable (r.KnownAs key) := inferInstanceAs (Decidable (_ ∨ _))

namespace Registry

variable {r r' : Rule} {key name : String} {value : Value}

theorem mem_idChars_of_builtin (h : r ∈ builtin.rules) : ∀ x ∈ r.id.toList, x ∈ idChars := by
  have hall : (builtin.rules.all fun r => r.id.toList.all idChars.contains) = true := by
    decide
  intro x hx
  simpa using List.all_eq_true.1 (List.all_eq_true.1 hall r h) x hx

/-- No key of a built-in rule is one of another. -/
theorem eq_of_knownAs (h : r ∈ builtin.rules) (h' : r' ∈ builtin.rules) (hkey : r.KnownAs key)
    (hkey' : r'.KnownAs key) : r = r' := by
  have hname : ∀ a ∈ builtin.rules, ∀ b ∈ builtin.rules, a.name.toList.map Char.toUpper ≠ b.id.toList := by
    decide
  have hids : (builtin.rules.map Rule.id).Nodup := by
    decide
  rcases hkey with rfl | hid <;> rcases hkey' with hname' | hid'
  · exact List.inj_on_of_nodup_map builtin.nodup_names h h' hname'
  · exact absurd hid' (hname r h r' h')
  · rw [hname'] at hid
    exact absurd hid (hname r' h' r h)
  · exact List.inj_on_of_nodup_map hids h h' (String.toList_inj.1 (hid.symm.trans hid'))

theorem matchesKey_iff (h : r ∈ builtin.rules) : r.matchesKey key = true ↔ r.KnownAs key := by
  unfold Rule.matchesKey Rule.KnownAs
  rw [Bool.or_eq_true, beq_iff_eq, beq_iff_eq, upper_eq_iff (mem_idChars_of_builtin h)]

theorem builtin_get_eq_ok_iff : builtin.get key = .ok r ↔ r ∈ builtin.rules ∧ r.KnownAs key := by
  have hfound : ∀ {r}, builtin.find? key = some r → r ∈ builtin.rules ∧ r.KnownAs key := by
    intro r h
    unfold find? at h
    split at h
    · rename_i rule hrule
      cases h
      have hname : (r.name == key) = true := List.find?_some (p := fun r : Rule => r.name == key) hrule
      exact ⟨List.mem_of_find?_eq_some hrule, .inl (beq_iff_eq.1 hname).symm⟩
    · exact ⟨List.mem_of_find?_eq_some h,
        (matchesKey_iff (List.mem_of_find?_eq_some h)).1 (List.find?_some (p := fun r : Rule => r.matchesKey key) h)⟩
  unfold get
  constructor
  · intro h
    cases hfind : builtin.find? key with
    | none => rw [hfind] at h; cases h
    | some rule =>
      rw [hfind] at h
      cases h
      exact hfound hfind
  · rintro ⟨hr, hkey⟩
    cases hfind : builtin.find? key with
    | some rule => rw [eq_of_knownAs hr (hfound hfind).1 hkey (hfound hfind).2]
    | none =>
      unfold find? at hfind
      split at hfind
      · cases hfind
      · exact absurd ((matchesKey_iff hr).2 hkey) (List.find?_eq_none.1 hfind r hr)

theorem not_knownAs_default (h : r ∈ builtin.rules) : ¬ r.KnownAs defaultKey := by
  revert r
  decide

end Registry

end MarkdownStyle
