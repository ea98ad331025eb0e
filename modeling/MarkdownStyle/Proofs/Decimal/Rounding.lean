/-
How far rounding to 53 significant bits goes. The exponent of a quotient is chosen so that at least
53 bits stand in front of the point, so a rounded quotient exceeds the exact one by no more than one
part in `2 ^ 53`; and what can be written with 53 bits is not undercut by a quotient that has reached it.
-/
import MarkdownStyle.Decimal.Binary
import Mathlib.Tactic

namespace MarkdownStyle

theorem twoTo_pos (e : Int) : 0 < twoTo e := Nat.two_pow_pos _

theorem twoTo_of_nonpos {e : Int} (h : e ≤ 0) : twoTo e = 1 := by
  rw [twoTo, Int.toNat_of_nonpos h]

theorem twoTo_succ {e : Int} (h : 0 ≤ e) : twoTo (e + 1) = 2 * twoTo e := by
  obtain ⟨n, rfl⟩ := Int.eq_ofNat_of_zero_le h
  exact Nat.pow_succ'

namespace BinaryFraction

variable {num den : Nat}

/-- Rounding to an integer goes up by no more than a half. -/
theorem roundQuotient_le (num : Nat) (hd : 0 < den) : 2 * (roundQuotient num den * den) ≤ 2 * num + den := by
  have hdiv := Nat.div_add_mod' num den
  have hmod := Nat.mod_lt num hd
  unfold roundQuotient
  simp only [Bool.or_eq_true, decide_eq_true_eq, Bool.and_eq_true, beq_iff_eq]
  split
  · omega
  · rw [Nat.add_mul, Nat.one_mul]
    omega

/-- Rounding to an integer does not go below an integer that is reached. -/
theorem le_roundQuotient {k : Nat} (hd : 0 < den) (h : k * den ≤ num) : k ≤ roundQuotient num den := by
  have hbelow : k ≤ num / den := (Nat.le_div_iff_mul_le hd).2 h
  unfold roundQuotient
  simp only
  split
  · exact hbelow
  · exact hbelow.trans (Nat.le_succ _)

/-- The exponent leaves 53 bits in front of the point. -/
theorem two_pow_le_of_quotientExponent (hn : 0 < num) :
    2 ^ 52 * (den * twoTo (quotientExponent num den)) ≤ num * twoTo (-quotientExponent num den) := by
  unfold quotientExponent
  simp only
  split
  · have hlow : 2 ^ num.log2 ≤ num := Nat.log2_self_le (by omega)
    have hhigh : den < 2 ^ (den.log2 + 1) := Nat.lt_log2_self
    generalize num.log2 = a at hlow
    generalize den.log2 = b at hhigh
    unfold twoTo
    -- one of the two powers is one, depending on which of the numbers has more bits
    rcases le_or_gt (a : Int) (b + 53) with h | h
    · obtain ⟨k, hk⟩ : ∃ k : Nat, b + 53 = a + k := ⟨b + 53 - a, by omega⟩
      have he : ((a : Int) - b - 52 - 1).toNat = 0 := by omega
      have he' : (-((a : Int) - b - 52 - 1)).toNat = k := by omega
      rw [he, he']
      calc 2 ^ 52 * (den * Nat.pow 2 0) ≤ 2 ^ 52 * 2 ^ (b + 1) := by
            simp only [Nat.pow_eq, pow_zero, mul_one]
            omega
        _ = 2 ^ a * 2 ^ k := by rw [← pow_add, ← pow_add]; congr 1; omega
        _ ≤ num * Nat.pow 2 k := Nat.mul_le_mul_right _ hlow
    · obtain ⟨k, hk⟩ : ∃ k : Nat, a = b + 53 + k := ⟨a - (b + 53), by omega⟩
      have he : ((a : Int) - b - 52 - 1).toNat = k := by omega
      have he' : (-((a : Int) - b - 52 - 1)).toNat = 0 := by omega
      rw [he, he']
      calc 2 ^ 52 * (den * Nat.pow 2 k) ≤ 2 ^ 52 * (2 ^ (b + 1) * 2 ^ k) :=
            Nat.mul_le_mul_left _ (Nat.mul_le_mul_right _ hhigh.le)
        _ = 2 ^ a := by rw [← pow_add, ← pow_add]; congr 1; omega
        _ ≤ num * Nat.pow 2 0 := by simpa using hlow
  · rename_i hge
    rw [not_lt] at hge
    exact hge

/-- A quotient below `2 ^ 51` has bits behind the point left. -/
theorem quotientExponent_lt (hn : 0 < num) (hlt : num < 2 ^ 51 * den) : quotientExponent num den < 0 := by
  have hbits := @two_pow_le_of_quotientExponent num den hn
  by_contra hge
  rw [@twoTo_of_nonpos (-quotientExponent num den) (by omega)] at hbits
  have hscale : den ≤ den * twoTo (quotientExponent num den) := Nat.le_mul_of_pos_right _ (twoTo_pos _)
  omega

/-- A rounded quotient exceeds the exact one by at most one part in `2 ^ 53`. -/
theorem ofQuotient_le {num : Int} {den : Nat} (hn : 0 ≤ num) (hd : 0 < den) :
    2 ^ 53 * ((ofQuotient num den).numerator * den) ≤ (2 ^ 53 + 1) * (num * (ofQuotient num den).denominator) := by
  unfold ofQuotient
  split
  · rename_i h
    simp [h, numerator]
  · rename_i hne
    have hpos : 0 < num.natAbs := Int.natAbs_pos.2 hne
    have hbits := @two_pow_le_of_quotientExponent _ den hpos
    have hround := roundQuotient_le (num.natAbs * twoTo (-quotientExponent num.natAbs den))
      (Nat.mul_pos hd (twoTo_pos (quotientExponent num.natAbs den)))
    have habs : (num.natAbs : Int) = num := Int.natAbs_of_nonneg hn
    simp only [numerator, denominator, Int.sign_eq_one_of_pos (by omega : 0 < num), one_mul]
    generalize quotientExponent num.natAbs den = e at *
    generalize roundQuotient _ _ = m at *
    rw [← habs]
    norm_cast
    nlinarith

/-- Below `2 ^ 51` every half can be written with 53 bits, so rounding does not go below a half that the
quotient has reached. -/
theorem le_ofQuotient {num : Int} {den halves : Nat} (hn : 0 ≤ num) (hd : 0 < den) (hlt : num < 2 ^ 51 * den)
    (h : halves * den ≤ 2 * num) :
    halves * (ofQuotient num den).denominator ≤ 2 * (ofQuotient num den).numerator := by
  obtain ⟨n, rfl⟩ := Int.eq_ofNat_of_zero_le hn
  norm_cast at h hlt
  unfold ofQuotient
  split
  · rename_i hzero
    have hnone : halves = 0 := by
      have hn : n = 0 := by exact_mod_cast hzero
      rw [hn, Nat.mul_zero] at h
      exact (Nat.mul_eq_zero.1 (Nat.le_zero.1 h)).resolve_right hd.ne'
    simp [hnone, numerator]
  · rename_i hne
    have hpos : 0 < n := Nat.pos_of_ne_zero (by exact_mod_cast hne)
    have hneg := quotientExponent_lt hpos hlt
    simp only [Int.natAbs_natCast, Int.sign_eq_one_of_pos (by exact_mod_cast hpos : (0 : Int) < n), one_mul,
      numerator, denominator]
    generalize quotientExponent n den = e at hneg
    -- one step of the grid is at most a half, so the half stands on it
    have hgrid : twoTo (-e) = 2 * twoTo (-e - 1) := by
      rw [← twoTo_succ (by omega), sub_add_cancel]
    have hstep : halves * twoTo (-e - 1) ≤ roundQuotient (n * twoTo (-e)) (den * twoTo e) := by
      refine le_roundQuotient (Nat.mul_pos hd (twoTo_pos e)) ?_
      rw [twoTo_of_nonpos hneg.le, mul_one, hgrid]
      calc halves * twoTo (-e - 1) * den = halves * den * twoTo (-e - 1) := by ring
        _ ≤ 2 * n * twoTo (-e - 1) := Nat.mul_le_mul_right _ h
        _ = n * (2 * twoTo (-e - 1)) := by ring
    generalize roundQuotient _ _ = m at hstep ⊢
    rw [twoTo_of_nonpos hneg.le, hgrid]
    norm_cast
    calc halves * (2 * twoTo (-e - 1)) = 2 * (halves * twoTo (-e - 1)) := by ring
      _ ≤ 2 * (m * 1) := by omega

/-! ## Fractions that are not negative -/

theorem numerator_nonneg {x : BinaryFraction} (h : 0 ≤ x.mantissa) : 0 ≤ x.numerator :=
  mul_nonneg h (Int.natCast_nonneg _)

theorem ofQuotient_nonneg {num : Int} (h : 0 ≤ num) (den : Nat) : 0 ≤ (ofQuotient num den).mantissa := by
  unfold ofQuotient
  split
  · exact le_refl 0
  · rename_i hne
    rw [Int.sign_eq_one_of_pos (by omega)]
    exact mul_nonneg Int.one_nonneg (Int.natCast_nonneg _)

theorem addHalf_nonneg {x : BinaryFraction} (h : 0 ≤ x.mantissa) : 0 ≤ x.addHalf.mantissa := by
  have hnum := numerator_nonneg h
  exact ofQuotient_nonneg (by omega) _

theorem truncate_nonneg {x : BinaryFraction} (h : 0 ≤ x.mantissa) : 0 ≤ x.truncate :=
  Int.tdiv_nonneg (numerator_nonneg h) (Int.natCast_nonneg _)

/-- The integer part is the greatest integer that a nonnegative fraction reaches. -/
theorem le_truncate_iff {x : BinaryFraction} (h : 0 ≤ x.numerator) {n : Int} :
    n ≤ x.truncate ↔ n * x.denominator ≤ x.numerator := by
  have hden : (0 : Int) < x.denominator := by exact_mod_cast twoTo_pos (-x.exponent)
  rw [truncate, Int.tdiv_eq_ediv_of_nonneg h, Int.le_ediv_iff_mul_le hden]

end BinaryFraction

end MarkdownStyle
