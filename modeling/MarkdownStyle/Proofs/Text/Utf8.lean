/-
Reading encoded texts. The first byte of a character tells how many follow and bounds the second one;
the bits of all of them together are the character. So an encoded text is read back.
-/
import MarkdownStyle.Text.Utf8
import Mathlib.Tactic

namespace MarkdownStyle.Text

variable {b : UInt8} {g : Begun}

/-! ## First bytes -/

theorem begin?_two (position : Nat) (hl : 0xC2 ≤ b.toNat) (hr : b.toNat < 0xE0) :
    begin? b position = some ⟨b.toNat - 0xC0, 1, 0x80, 0xBF, b, position⟩ := by
  simp only [begin?, UInt8.lt_iff_toNat_lt, UInt8.reduceToNat]
  rw [if_neg (by omega), if_pos hr]

theorem begin?_three (position : Nat) (hl : 0xE0 ≤ b.toNat) (hr : b.toNat < 0xF0) :
    begin? b position = some ⟨b.toNat - 0xE0, 2, if b = 0xE0 then 0xA0 else 0x80,
      if b = 0xED then 0x9F else 0xBF, b, position⟩ := by
  simp only [begin?, UInt8.lt_iff_toNat_lt, UInt8.reduceToNat]
  rw [if_neg (by omega), if_neg (by omega), if_pos hr]

theorem begin?_four (position : Nat) (hl : 0xF0 ≤ b.toNat) (hr : b.toNat < 0xF5) :
    begin? b position = some ⟨b.toNat - 0xF0, 3, if b = 0xF0 then 0x90 else 0x80,
      if b = 0xF4 then 0x8F else 0xBF, b, position⟩ := by
  simp only [begin?, UInt8.lt_iff_toNat_lt, UInt8.reduceToNat]
  rw [if_neg (by omega), if_neg (by omega), if_neg (by omega), if_pos hr]

/-! ## Decoding a byte -/

/-- A byte that may come next in a character that has begun. -/
def Begun.Admits (g : Begun) (b : UInt8) : Prop := g.low.toNat ≤ b.toNat ∧ b.toNat ≤ g.high.toNat

theorem Begun.Admits.eq_false (h : g.Admits b) : (decide (b < g.low) || decide (g.high < b)) = false := by
  obtain ⟨hl, hh⟩ := h
  simp only [UInt8.lt_iff_toNat_lt, Bool.or_eq_false_iff, decide_eq_false_iff_not]
  omega

/-- The character after another byte. -/
def Begun.next (g : Begun) (b : UInt8) : Begun :=
  { g with bits := 64 * g.bits + (b.toNat - 0x80), missing := g.missing - 1, low := 0x80, high := 0xBF }

theorem decodeFrom_ascii (position : Nat) (rest : Bytes) (h : b.toNat < 0x80) :
    decodeFrom position none (b :: rest) =
      (decodeFrom (position + 1) none rest).map (Char.ofNat b.toNat :: ·) := by
  rw [decodeFrom, if_pos (UInt8.lt_iff_toNat_lt.2 h)]

theorem decodeFrom_begin {position : Nat} (rest : Bytes) (h : 0x80 ≤ b.toNat) (hg : begin? b position = some g) :
    decodeFrom position none (b :: rest) = decodeFrom (position + 1) (some g) rest := by
  rw [decodeFrom, if_neg (by rw [UInt8.lt_iff_toNat_lt]; exact Nat.not_lt.2 h), hg]

theorem decodeFrom_more (position : Nat) (rest : Bytes) (h : g.Admits b) (hm : 1 < g.missing) :
    decodeFrom position (some g) (b :: rest) = decodeFrom (position + 1) (some (g.next b)) rest := by
  rw [decodeFrom, h.eq_false]
  simp only [Bool.false_eq_true, if_false]
  rw [if_neg (by omega)]
  rfl

theorem decodeFrom_last (position : Nat) (rest : Bytes) (h : g.Admits b) (hm : g.missing ≤ 1) :
    decodeFrom position (some g) (b :: rest) =
      (decodeFrom (position + 1) none rest).map (Char.ofNat (64 * g.bits + (b.toNat - 0x80)) :: ·) := by
  rw [decodeFrom, h.eq_false]
  simp only [Bool.false_eq_true, if_false]
  rw [if_pos hm]

/-! ## Decoding a character -/

/-- A byte that continues a character. -/
def Continues (b : UInt8) : Prop := 0x80 ≤ b.toNat ∧ b.toNat < 0xC0

theorem Continues.admits {c : UInt8} (h : Continues c) (hl : g.low = 0x80) (hh : g.high = 0xBF) : g.Admits c := by
  obtain ⟨h1, h2⟩ := h
  unfold Begun.Admits
  rw [hl, hh]
  exact ⟨h1, Nat.le_of_lt_succ h2⟩

/-- A byte that continues a character, between bounds that only one first byte makes tighter. -/
theorem Continues.admits_of_bounds {c low high first other : UInt8} (h : Continues c)
    (hlow : g.low = if b = first then low else 0x80) (hhigh : g.high = if b = other then high else 0xBF)
    (hfirst : b.toNat = first.toNat → low.toNat ≤ c.toNat) (hother : b.toNat = other.toNat → c.toNat ≤ high.toNat) :
    g.Admits c := by
  obtain ⟨h1, h2⟩ := h
  constructor
  · rw [hlow]
    split
    · rename_i he
      exact hfirst (congrArg UInt8.toNat he)
    · exact h1
  · rw [hhigh]
    split
    · rename_i he
      exact hother (congrArg UInt8.toNat he)
    · exact Nat.le_of_lt_succ h2

variable {c d e : UInt8}

theorem decodeFrom_two (position : Nat) (rest : Bytes) (hl : 0xC2 ≤ b.toNat) (hr : b.toNat < 0xE0) (hc : Continues c) :
    decodeFrom position none (b :: c :: rest) = (decodeFrom (position + 2) none rest).map
      (Char.ofNat (64 * (b.toNat - 0xC0) + (c.toNat - 0x80)) :: ·) := by
  rw [decodeFrom_begin _ (by omega) (begin?_two position hl hr), decodeFrom_last _ _ (hc.admits rfl rfl) (le_refl 1)]

theorem decodeFrom_three (position : Nat) (rest : Bytes) (hl : 0xE0 ≤ b.toNat) (hr : b.toNat < 0xF0)
    (hc : Continues c) (hshortest : b.toNat = 0xE0 → 0xA0 ≤ c.toNat) (hgap : b.toNat = 0xED → c.toNat ≤ 0x9F)
    (hd : Continues d) :
    decodeFrom position none (b :: c :: d :: rest) = (decodeFrom (position + 3) none rest).map
      (Char.ofNat (64 * (64 * (b.toNat - 0xE0) + (c.toNat - 0x80)) + (d.toNat - 0x80)) :: ·) := by
  rw [decodeFrom_begin _ (by omega) (begin?_three position hl hr),
    decodeFrom_more _ _ (hc.admits_of_bounds rfl rfl hshortest hgap) (Nat.lt_succ_self 1),
    decodeFrom_last _ _ (hd.admits rfl rfl) (le_refl 1)]
  rfl

theorem decodeFrom_four (position : Nat) (rest : Bytes) (hl : 0xF0 ≤ b.toNat) (hr : b.toNat < 0xF5)
    (hc : Continues c) (hshortest : b.toNat = 0xF0 → 0x90 ≤ c.toNat) (hrange : b.toNat = 0xF4 → c.toNat ≤ 0x8F)
    (hd : Continues d) (he : Continues e) :
    decodeFrom position none (b :: c :: d :: e :: rest) = (decodeFrom (position + 4) none rest).map
      (Char.ofNat (64 * (64 * (64 * (b.toNat - 0xF0) + (c.toNat - 0x80)) + (d.toNat - 0x80)) +
        (e.toNat - 0x80)) :: ·) := by
  rw [decodeFrom_begin _ (by omega) (begin?_four position hl hr),
    decodeFrom_more _ _ (hc.admits_of_bounds rfl rfl hshortest hrange) (show 1 < 3 by decide),
    decodeFrom_more _ _ (hd.admits rfl rfl) (Nat.lt_succ_self 1), decodeFrom_last _ _ (he.admits rfl rfl) (le_refl 1)]
  rfl

/-! ## Reading an encoded text -/

theorem toNat_ofNat {n : Nat} (h : n < 256) : (UInt8.ofNat n).toNat = n := UInt8.toNat_ofNat_of_lt' h

/-- No character stands in the gap of the surrogates or beyond the last one. -/
theorem toNat_bounds (c : Char) : c.val.toNat < 0xD800 ∨ 0xE000 ≤ c.val.toNat ∧ c.val.toNat < 0x110000 := by
  rcases c.valid with h | ⟨hl, hr⟩
  · exact .inl h
  · exact .inr ⟨hl, hr⟩

/-- An encoded character is read back, and decoding goes on behind it. -/
theorem decodeFrom_encodeChar (c : Char) (position : Nat) (rest : Bytes) :
    decodeFrom position none (String.utf8EncodeChar c ++ rest) =
      (decodeFrom (position + (String.utf8EncodeChar c).length) none rest).map (c :: ·) := by
  have hbounds := toNat_bounds c
  have hchar : ∀ {n : Nat}, n = c.val.toNat → Char.ofNat n = c := fun h => by rw [h]; exact Char.ofNat_toNat c
  unfold String.utf8EncodeChar
  -- one case for each number of bytes, in which the bits of the bytes are put together again
  generalize c.val.toNat = v at hbounds hchar
  simp only
  split_ifs with h1 h2 h3
  · have h := @toNat_ofNat v (by omega)
    rw [List.singleton_append, decodeFrom_ascii _ _ (by omega), hchar h]
    rfl
  · have hb := @toNat_ofNat (v / 64 % 32 + 192) (by omega)
    have hc := @toNat_ofNat (v % 64 + 128) (by omega)
    show decodeFrom position none (_ :: _ :: rest) = _
    rw [decodeFrom_two position rest (by omega) (by omega) ⟨by omega, by omega⟩, hchar (by omega)]
    rfl
  · have hb := @toNat_ofNat (v / 4096 % 16 + 224) (by omega)
    have hc := @toNat_ofNat (v / 64 % 64 + 128) (by omega)
    have hd := @toNat_ofNat (v % 64 + 128) (by omega)
    show decodeFrom position none (_ :: _ :: _ :: rest) = _
    rw [decodeFrom_three position rest (by omega) (by omega) ⟨by omega, by omega⟩ (by omega) (by omega)
      ⟨by omega, by omega⟩, hchar (by omega)]
    rfl
  · have hb := @toNat_ofNat (v / 262144 % 8 + 240) (by omega)
    have hc := @toNat_ofNat (v / 4096 % 64 + 128) (by omega)
    have hd := @toNat_ofNat (v / 64 % 64 + 128) (by omega)
    have he := @toNat_ofNat (v % 64 + 128) (by omega)
    show decodeFrom position none (_ :: _ :: _ :: _ :: rest) = _
    rw [decodeFrom_four position rest (by omega) (by omega) ⟨by omega, by omega⟩ (by omega) (by omega)
      ⟨by omega, by omega⟩ ⟨by omega, by omega⟩, hchar (by omega)]
    rfl

theorem decodeFrom_encode (t : Text) (position : Nat) : decodeFrom position none (encode t) = .ok t := by
  induction t generalizing position with
  | nil => rfl
  | cons c rest ih =>
    show decodeFrom position none (String.utf8EncodeChar c ++ encode rest) = _
    rw [decodeFrom_encodeChar, ih]
    rfl

/-- An encoded text is read back. -/
theorem decode_encode (t : Text) : decode (encode t) = .ok t := decodeFrom_encode t 0

end MarkdownStyle.Text
