/-
The indent that is asked for is the nearest right one. The level of nesting is found with two roundings
to 53 bits, and a quotient just below a half could be rounded up to it. It is not, as long as the indent
is at most `2 ^ 50`: a quotient that has reached a half keeps it since halves can be written exactly, and
one that has not is further away from it than both roundings together go.
-/
import MarkdownStyle.Proofs.Decimal.Rounding
import MarkdownStyle.Rule.DashItem

namespace MarkdownStyle

/-! ## The level of nesting -/

namespace BinaryFraction

/-- A quotient that reaches `n` and a half still does so after both roundings. -/
theorem le_truncate_addHalf {a : Int} {s n : Nat} (ha : 0 ≤ a) (hlt : a < 2 ^ 50) (hs : 0 < s)
    (h : (2 * n + 1 : Nat) * s ≤ 2 * a) : (n + 1 : Nat) ≤ (ofQuotient a s).addHalf.truncate := by
  have hs' : (0 : Int) < s := by exact_mod_cast hs
  have hhalf := le_ofQuotient ha hs (by omega) h
  have hupper := ofQuotient_le ha hs
  have hmantissa := ofQuotient_nonneg ha s
  generalize ofQuotient a s = x at hhalf hupper hmantissa
  have hnum : 0 ≤ x.numerator := numerator_nonneg hmantissa
  have hden : 0 < x.denominator := twoTo_pos (-x.exponent)
  rw [le_truncate_iff (numerator_nonneg (addHalf_nonneg hmantissa))]
  have hden' : (0 : Int) < x.denominator := by exact_mod_cast hden
  have hsmall : 2 ^ 53 * x.numerator ≤ (2 ^ 53 + 1) * 2 ^ 50 * x.denominator := by
    refine le_of_mul_le_mul_right ?_ hs'
    calc 2 ^ 53 * x.numerator * s = 2 ^ 53 * (x.numerator * s) := by ring
      _ ≤ (2 ^ 53 + 1) * (a * x.denominator) := hupper
      _ ≤ (2 ^ 53 + 1) * (2 ^ 50 * s * x.denominator) := by gcongr; omega
      _ = (2 ^ 53 + 1) * 2 ^ 50 * x.denominator * s := by ring
  have hsum := @le_ofQuotient (2 * x.numerator + x.denominator) (2 * x.denominator) (2 * (n + 1)) (by omega) (by omega)
    (by push_cast; omega) (by push_cast at hhalf ⊢; linarith)
  unfold addHalf
  push_cast at hsum ⊢
  linarith

/-- A quotient that does not reach `n` and a half does not do so after both roundings either. -/
theorem truncate_addHalf_lt {a : Int} {s n : Nat} (ha : 0 ≤ a) (hlt : a < 2 ^ 50) (hs : 0 < s)
    (h : 2 * a < (2 * n + 1 : Nat) * s) : (ofQuotient a s).addHalf.truncate < (n + 1 : Nat) := by
  have hs' : (0 : Int) < s := by exact_mod_cast hs
  have hquotient := ofQuotient_le ha hs
  have hmantissa := ofQuotient_nonneg ha s
  generalize ofQuotient a s = x at hquotient hmantissa
  have hnum : 0 ≤ x.numerator := numerator_nonneg hmantissa
  have hden : (0 : Int) < x.denominator := by exact_mod_cast twoTo_pos (-x.exponent)
  have hden' : (0 : Int) < x.addHalf.denominator := by exact_mod_cast twoTo_pos (-x.addHalf.exponent)
  have hsum := @ofQuotient_le (2 * x.numerator + x.denominator) (2 * x.denominator) (by omega) (by omega)
  change 2 ^ 53 * (x.addHalf.numerator * ((2 * x.denominator : Nat) : Int)) ≤
    (2 ^ 53 + 1) * ((2 * x.numerator + x.denominator) * x.addHalf.denominator) at hsum
  push_cast at hsum h ⊢
  by_contra hreached
  rw [not_lt, le_truncate_iff (numerator_nonneg (addHalf_nonneg hmantissa))] at hreached
  generalize x.addHalf.numerator = H at *
  generalize (x.addHalf.denominator : Int) = G at *
  generalize x.numerator = P at *
  generalize (x.denominator : Int) = Q at *
  generalize (s : Int) = t at *
  have hhalf : 2 ^ 53 * ((n + 1) * (2 * Q)) ≤ (2 ^ 53 + 1) * (2 * P + Q) := by
    refine le_of_mul_le_mul_right ?_ hden'
    calc 2 ^ 53 * ((n + 1) * (2 * Q)) * G = 2 ^ 53 * ((n + 1) * G * (2 * Q)) := by ring
      _ ≤ 2 ^ 53 * (H * (2 * Q)) := by gcongr
      _ ≤ (2 ^ 53 + 1) * ((2 * P + Q) * G) := hsum
      _ = (2 ^ 53 + 1) * (2 * P + Q) * G := by ring
  -- each rounding has added at most one part in `2 ^ 53`
  have hexact : 2 ^ 106 * (2 * ((n + 1) * t)) ≤ (2 ^ 53 + 1) * (2 * ((2 ^ 53 + 1) * a) + 2 ^ 53 * t) := by
    refine le_of_mul_le_mul_right ?_ hden
    calc 2 ^ 106 * (2 * ((n + 1) * t)) * Q = 2 ^ 53 * (2 ^ 53 * ((n + 1) * (2 * Q)) * t) := by ring
      _ ≤ 2 ^ 53 * ((2 ^ 53 + 1) * (2 * P + Q) * t) := by gcongr
      _ = (2 ^ 53 + 1) * (2 * (2 ^ 53 * (P * t)) + 2 ^ 53 * t * Q) := by ring
      _ ≤ (2 ^ 53 + 1) * (2 * ((2 ^ 53 + 1) * (a * Q)) + 2 ^ 53 * t * Q) := by gcongr
      _ = (2 ^ 53 + 1) * (2 * ((2 ^ 53 + 1) * a) + 2 ^ 53 * t) * Q := by ring
  have hshort : (2 * n + 1) * t = 2 * ((n + 1) * t) - t := by ring
  have hpos : t ≤ (n + 1) * t := le_mul_of_one_le_left hs'.le (by omega)
  rw [hshort] at h
  generalize ((n : Int) + 1) * t = reach at *
  omega

/-- Up to `2 ^ 50` the roundings do not show: what is left is the quotient, rounded to the nearest integer,
and rounded up where it is a half. -/
theorem exists_level {a : Int} {s : Nat} (ha : 0 ≤ a) (hlt : a < 2 ^ 50) (hs : 0 < s) :
    ∃ level : Nat, (ofQuotient a s).addHalf.truncate = level ∧ 2 * (level * s : Int) ≤ 2 * a + s ∧
      2 * a < 2 * (level * s : Int) + s := by
  obtain ⟨level, hlevel⟩ := Int.eq_ofNat_of_zero_le (truncate_nonneg (addHalf_nonneg (ofQuotient_nonneg ha s)))
  refine ⟨level, hlevel, ?_, ?_⟩
  · by_contra hover
    obtain ⟨n, rfl⟩ : ∃ n, level = n + 1 := by
      cases level with
      | zero => omega
      | succ n => exact ⟨n, rfl⟩
    have hbelow := @truncate_addHalf_lt a s n ha hlt hs (by push_cast at hover ⊢; linarith)
    rw [hlevel] at hbelow
    exact lt_irrefl _ hbelow
  · by_contra hunder
    have habove := @le_truncate_addHalf a s level ha hlt hs (by push_cast; linarith)
    rw [hlevel] at habove
    exact absurd habove (by push_cast; omega)

end BinaryFraction

/-! ## The nearest indent -/

/-- A right indent: one space, and a whole step more for each level of nesting. -/
def RightIndent (step v : Int) : Prop := ∃ level : Nat, v = 1 + level * step

/-- A right indent that no other one is nearer than; of two that are equally near it is the larger. -/
structure NearestIndent (indent step v : Int) : Prop where
  right : RightIndent step v
  nearest : ∀ w, RightIndent step w → (indent - v).natAbs ≤ (indent - w).natAbs
  larger : ∀ w, RightIndent step w → (indent - w).natAbs = (indent - v).natAbs → w ≤ v

/-- Rounding to the nearest level, and up where two are equally near, gives the nearest indent. -/
theorem nearestIndent_of_level {indent step : Int} {level : Nat} (hlow : 2 * (level * step) ≤ 2 * (indent - 1) + step)
    (hhigh : 2 * (indent - 1) < 2 * (level * step) + step) : NearestIndent indent step (1 + level * step) := by
  have hs : 0 < step := by omega
  have hother : ∀ k : Nat, k = level ∨ k * step + step ≤ level * step ∨ level * step + step ≤ k * step := by
    intro k
    rcases Nat.lt_trichotomy k level with h | h | h
    · have := mul_le_mul_of_nonneg_right (by exact_mod_cast h : (k : Int) + 1 ≤ level) hs.le
      exact .inr (.inl (by rwa [add_one_mul] at this))
    · exact .inl h
    · have := mul_le_mul_of_nonneg_right (by exact_mod_cast h : (level : Int) + 1 ≤ k) hs.le
      exact .inr (.inr (by rwa [add_one_mul] at this))
  constructor
  · exact ⟨level, rfl⟩
  · rintro w ⟨k, rfl⟩
    rcases hother k with rfl | h | h <;> omega
  · rintro w ⟨k, rfl⟩ hsame
    rcases hother k with rfl | h | h <;> omega

/-- Up to an indent of `2 ^ 50` the indent that is asked for is the nearest right one, whatever the step. -/
theorem nearestIndent_closestIndent {indent step : Int} (hi : 1 ≤ indent) (hle : indent ≤ 2 ^ 50) (hs : 1 ≤ step) :
    ∃ v, closestIndent? indent step = some v ∧ NearestIndent indent step v := by
  obtain ⟨s, rfl⟩ := Int.eq_ofNat_of_zero_le (by omega : 0 ≤ step)
  have hs : 0 < s := by omega
  obtain ⟨level, hlevel, hlow, hhigh⟩ := @BinaryFraction.exists_level (indent - 1) s (by omega) (by omega) hs
  refine ⟨1 + level * s, ?_, nearestIndent_of_level hlow hhigh⟩
  unfold closestIndent?
  rw [if_neg (by omega), if_neg (by omega), Int.sign_eq_one_of_pos (by omega), mul_one, Int.natAbs_natCast]
  show some (1 + (BinaryFraction.ofQuotient (indent - 1) s).addHalf.truncate * s) = _
  rw [hlevel]

/-- One and two steps of four are equally near to an indent of seven. A quotient that is below a half by one
part in `2 ^ 51` is not rounded up to it, and a step with more than 53 bits is as good as any. -/
theorem nearestIndent_closestIndent_of_half :
    (1 ≤ (7 : Int) ∧ (7 : Int) ≤ 2 ^ 50 ∧ 1 ≤ (4 : Int)) ∧ NearestIndent 7 4 9 ∧
      NearestIndent (2 ^ 50) (2 ^ 51 - 1) 1 ∧ NearestIndent (2 ^ 50) (2 ^ 64 + 1) 1 := by
  have hresult : ∀ {indent step expected : Int}, 1 ≤ indent → indent ≤ 2 ^ 50 → 1 ≤ step →
      closestIndent? indent step = some expected → NearestIndent indent step expected := by
    intro indent step expected hi hle hs hexpected
    obtain ⟨v, hv, hnear⟩ := nearestIndent_closestIndent hi hle hs
    cases hexpected.symm.trans hv
    exact hnear
  refine ⟨by decide, hresult (by decide) (by decide) (by decide) (by decide +kernel),
    hresult (by decide) (by decide) (by decide) (by decide +kernel),
    hresult (by decide) (by decide) (by decide) (by decide +kernel)⟩

-- beyond the limit a quotient just below a half is rounded up to it
example : closestIndent? (2 ^ 52 + 1) (2 ^ 53 + 1) = some (2 ^ 53 + 2) := by decide +kernel

end MarkdownStyle
