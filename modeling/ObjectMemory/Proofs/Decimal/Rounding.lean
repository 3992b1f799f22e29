import Mathlib
import ObjectMemory.Decimal.Binary64

/-!
# Rounding keeps the order

The code of a double counts the magnitudes from zero up, so codes are ordered as magnitudes are
(`magnitude_le_of_code_le`), and the code of a greater quotient is not less
(`nearestCode_mono`).  These two are all that bounds on a computation need: each operation rounds a
quotient of magnitudes, so what is known of the greatest operands is known of all others.

* `Binary64.magnitude`, `magnitude_eq_div` — the magnitude as a rational number;
* `two_zpow_floorLog_le`, `lt_two_zpow_floorLog` — the power of two below a quotient;
* `roundEven_mono` — whole numbers;
* **`nearestCode_mono`**, **`reach_le_of_code_le`** — codes and magnitudes.
-/

namespace ObjectMemory.Decimal

/-- Shifting the two sides of a quotient apart multiplies it by a power of two. -/
lemma shift_div_shift (num den : ℕ) (e : ℤ) :
    ((num <<< e.toNat : ℕ) : ℚ) / (den <<< (-e).toNat : ℕ) = num / den * 2 ^ e := by
  rw [Nat.shiftLeft_eq, Nat.shiftLeft_eq]
  push_cast
  obtain ⟨n, rfl | rfl⟩ := e.eq_nat_or_neg
  · rw [Int.toNat_natCast, Int.toNat_neg_natCast, zpow_natCast]
    ring
  · rw [neg_neg, Int.toNat_natCast, Int.toNat_neg_natCast, zpow_neg, zpow_natCast]
    ring

namespace Binary64

/-! ## The power of two below a quotient -/

variable {num den num' den' : ℕ}

lemma two_zpow_le_div_iff (hden : 0 < den) (e : ℤ) :
    den <<< e.toNat ≤ num <<< (-e).toNat ↔ (2 : ℚ) ^ e ≤ num / den := by
  have hshift : (0 : ℚ) < (den <<< e.toNat : ℕ) := by
    rw [Nat.shiftLeft_eq]
    positivity
  have hquotient := shift_div_shift num den (-e)
  rw [neg_neg] at hquotient
  rw [← Nat.cast_le (α := ℚ), ← one_le_div hshift, hquotient, zpow_neg, ← div_eq_mul_inv,
    one_le_div (by positivity)]

lemma two_zpow_log2_le {n : ℕ} (hn : 0 < n) : (2 : ℚ) ^ (Nat.log2 n : ℤ) ≤ n := by
  rw [zpow_natCast]
  exact_mod_cast Nat.log2_self_le (Nat.ne_of_gt hn)

lemma lt_two_zpow_log2 (n : ℕ) : (n : ℚ) < 2 ^ (Nat.log2 n + 1 : ℤ) := by
  have h : n < 2 ^ (Nat.log2 n + 1) := Nat.lt_log2_self
  exact_mod_cast h

lemma two_zpow_floorLog_le (hnum : 0 < num) (hden : 0 < den) :
    (2 : ℚ) ^ floorLog num den ≤ num / den := by
  rw [floorLog]
  split_ifs with htest
  · exact (two_zpow_le_div_iff hden _).mp htest
  · rw [le_div_iff₀ (by exact_mod_cast hden)]
    calc (2 : ℚ) ^ ((Nat.log2 num : ℤ) - Nat.log2 den - 1) * den
        ≤ 2 ^ ((Nat.log2 num : ℤ) - Nat.log2 den - 1) * 2 ^ (Nat.log2 den + 1 : ℤ) := by
          gcongr
          exact (lt_two_zpow_log2 den).le
      _ = 2 ^ (Nat.log2 num : ℤ) := by
          rw [← zpow_add₀ (by norm_num)]
          congr 1
          ring
      _ ≤ num := two_zpow_log2_le hnum

lemma lt_two_zpow_floorLog (hden : 0 < den) :
    (num / den : ℚ) < 2 ^ (floorLog num den + 1) := by
  rw [floorLog]
  split_ifs with htest
  · rw [div_lt_iff₀ (by exact_mod_cast hden)]
    calc (num : ℚ) < 2 ^ (Nat.log2 num + 1 : ℤ) := lt_two_zpow_log2 num
      _ = 2 ^ ((Nat.log2 num : ℤ) - Nat.log2 den + 1) * 2 ^ (Nat.log2 den : ℤ) := by
          rw [← zpow_add₀ (by norm_num)]
          congr 1
          ring
      _ ≤ 2 ^ ((Nat.log2 num : ℤ) - Nat.log2 den + 1) * den := by
          gcongr
          exact two_zpow_log2_le hden
  · rw [two_zpow_le_div_iff hden, not_le] at htest
    rwa [sub_add_cancel]

lemma floorLog_mono (hnum : 0 < num) (hden : 0 < den) (hden' : 0 < den')
    (h : (num / den : ℚ) ≤ num' / den') : floorLog num den ≤ floorLog num' den' := by
  have hlt : (2 : ℚ) ^ floorLog num den < 2 ^ (floorLog num' den' + 1) :=
    ((two_zpow_floorLog_le hnum hden).trans h).trans_lt (lt_two_zpow_floorLog hden')
  exact Int.lt_add_one_iff.mp ((zpow_lt_zpow_iff_right₀ (by norm_num)).mp hlt)

/-! ## Whole numbers -/

/-- The whole number nearest to a quotient is at most a half off it, and even if it is just that. -/
lemma roundEven_spec (num : ℕ) (hden : 0 < den) :
    2 * num ≤ (2 * roundEven num den + 1) * den ∧ 2 * roundEven num den * den ≤ 2 * num + den ∧
      (2 * num = (2 * roundEven num den + 1) * den ∨ 2 * roundEven num den * den = 2 * num + den →
        roundEven num den % 2 = 0) := by
  have hdiv := Nat.div_add_mod num den
  have hlt := Nat.mod_lt num hden
  have hrewrite : ∀ r : ℕ, (2 * r + 1) * den = 2 * (den * r) + den ∧ 2 * r * den = 2 * (den * r) :=
    fun r => ⟨by ring, by ring⟩
  have hnext : den * (num / den + 1) = den * (num / den) + den := by ring
  rw [roundEven, (hrewrite _).1, (hrewrite _).2]
  split_ifs with hbelow habove
  · omega
  · omega
  · rcases Nat.mod_two_eq_zero_or_one (num / den) with heven | hodd
    · rw [heven, Nat.add_zero]
      omega
    · rw [hodd]
      omega

/-- **Rounding to whole numbers keeps the order.** -/
lemma roundEven_mono (hden : 0 < den) (hden' : 0 < den') (h : (num / den : ℚ) ≤ num' / den') :
    roundEven num den ≤ roundEven num' den' := by
  obtain ⟨-, hlow, heven⟩ := roundEven_spec num hden
  obtain ⟨hhigh, -, heven'⟩ := roundEven_spec num' hden'
  rw [div_le_div_iff₀ (by exact_mod_cast hden) (by exact_mod_cast hden')] at h
  have hcross : num * den' ≤ num' * den := by exact_mod_cast h
  generalize roundEven num den = r at *
  generalize roundEven num' den' = r' at *
  have hproduct : 0 < den * den' := Nat.mul_pos hden hden'
  have hleft : 2 * r * (den * den') ≤ 2 * (num * den') + den * den' := by nlinarith
  have hright : 2 * (num' * den) ≤ (2 * r' + 1) * (den * den') := by nlinarith
  by_contra hlt
  rw [not_le] at hlt
  have hclose : r ≤ r' + 1 := by
    by_contra hfar
    nlinarith
  obtain rfl : r = r' + 1 := by omega
  -- the two numbers are next to each other, so both quotients lie half way, and both are even
  have hodd : 2 * (r' + 1) * den = 2 * num + den := by nlinarith
  have hodd' : 2 * num' = (2 * r' + 1) * den' := by nlinarith
  have := heven (.inr hodd)
  have := heven' (.inl hodd')
  omega

/-! ## Codes -/

/-- The power of two, as its exponent, in units of which a quotient is rounded. -/
def roundingUnit (num den : ℕ) : ℤ := max (-1074) (floorLog num den - 52)

/-- The whole number of units that a quotient is rounded to. -/
def roundedUnits (num den : ℕ) : ℕ :=
  roundEven (num <<< (-roundingUnit num den).toNat) (den <<< (roundingUnit num den).toNat)

lemma nearestCode_eq (hnum : num ≠ 0) :
    nearestCode num den
      = (roundingUnit num den + 1074).toNat * fractionSize + roundedUnits num den := by
  rw [nearestCode, if_neg hnum]
  rfl

lemma roundedUnits_ratio (num den : ℕ) (unit : ℤ) :
    ((num <<< (-unit).toNat : ℕ) : ℚ) / (den <<< unit.toNat : ℕ) = num / den * 2 ^ (-unit) := by
  have h := shift_div_shift num den (-unit)
  rwa [neg_neg] at h

lemma shifted_pos (hden : 0 < den) (n : ℕ) : 0 < den <<< n := by
  rw [Nat.shiftLeft_eq]
  positivity

/-- A quotient has fewer units than two binades, and a binade of them unless the unit is the least
one. -/
lemma roundedUnits_bounds (hnum : 0 < num) (hden : 0 < den) :
    roundedUnits num den ≤ 2 * fractionSize ∧
      (-1074 < roundingUnit num den → fractionSize ≤ roundedUnits num den) := by
  have hshift := shifted_pos hden (roundingUnit num den).toNat
  have hratio := roundedUnits_ratio num den (roundingUnit num den)
  constructor
  · have hone : roundEven (2 * fractionSize) 1 = 2 * fractionSize := by decide
    rw [← hone]
    refine roundEven_mono hshift Nat.one_pos ?_
    rw [hratio]
    have hlt : (num / den : ℚ) < _ := lt_two_zpow_floorLog hden
    have hunit : floorLog num den + 1 ≤ roundingUnit num den + 53 := by
      rw [roundingUnit]
      omega
    calc (num / den : ℚ) * 2 ^ (-roundingUnit num den)
        ≤ 2 ^ (roundingUnit num den + 53) * 2 ^ (-roundingUnit num den) := by
          gcongr
          exact hlt.le.trans (zpow_le_zpow_right₀ (by norm_num) hunit)
      _ = (2 * fractionSize : ℕ) / (1 : ℕ) := by
          rw [← zpow_add₀ (by norm_num), fractionSize]
          norm_num
  · intro hnormal
    have hone : roundEven fractionSize 1 = fractionSize := by decide
    rw [← hone]
    refine roundEven_mono Nat.one_pos hshift ?_
    rw [hratio]
    have hle := two_zpow_floorLog_le hnum hden
    have hunit : floorLog num den = roundingUnit num den + 52 := by
      rw [roundingUnit] at hnormal ⊢
      omega
    calc ((fractionSize : ℕ) : ℚ) / (1 : ℕ)
        = 2 ^ (roundingUnit num den + 52) * 2 ^ (-roundingUnit num den) := by
          rw [← zpow_add₀ (by norm_num), fractionSize]
          norm_num
      _ ≤ num / den * 2 ^ (-roundingUnit num den) := by
          rw [← hunit]
          gcongr

/-- **The code of a greater quotient is not less.** -/
theorem nearestCode_mono (hden : 0 < den) (hden' : 0 < den')
    (h : (num / den : ℚ) ≤ num' / den') : nearestCode num den ≤ nearestCode num' den' := by
  rcases Nat.eq_zero_or_pos num with rfl | hnum
  · exact Nat.zero_le _
  have hnum' : 0 < num' := by
    rcases Nat.eq_zero_or_pos num' with rfl | hpos
    · have : (0 : ℚ) < num / den := by positivity
      simp only [CharP.cast_eq_zero, zero_div] at h
      linarith
    · exact hpos
  have hlog := floorLog_mono hnum hden hden' h
  have hunits : roundingUnit num den ≤ roundingUnit num' den' := by
    rw [roundingUnit, roundingUnit]
    omega
  have hleast : -1074 ≤ roundingUnit num den := le_max_left ..
  rw [nearestCode_eq (Nat.ne_of_gt hnum), nearestCode_eq (Nat.ne_of_gt hnum')]
  rcases hunits.eq_or_lt with heq | hlt
  · rw [heq, Nat.add_le_add_iff_left, roundedUnits, roundedUnits]
    refine roundEven_mono (shifted_pos hden _) (shifted_pos hden' _) ?_
    rw [roundedUnits_ratio, roundedUnits_ratio, heq]
    gcongr
  · -- the units of the lesser quotient end where those of the greater one start
    have hhigh := (roundedUnits_bounds hnum hden).1
    have hlow := (roundedUnits_bounds hnum' hden').2 (by omega)
    have hstep : (roundingUnit num den + 1074).toNat + 1
        ≤ (roundingUnit num' den' + 1074).toNat := by
      omega
    have hscaled := Nat.mul_le_mul_right fractionSize hstep
    rw [Nat.add_mul, Nat.one_mul] at hscaled
    omega

/-! ## Magnitudes -/

/-- The magnitude of a number. -/
def magnitude (x : Binary64) : ℚ := x.significand * 2 ^ x.exponent

lemma numerator_div_denominator (x : Binary64) :
    (x.numerator : ℚ) / x.denominator = x.magnitude := by
  rw [numerator, denominator, shift_div_shift, magnitude, Nat.cast_one, div_one]

lemma denominator_pos (x : Binary64) : 0 < x.denominator := shifted_pos Nat.one_pos _

/-- A number is in one of the binades, which lie one above the other. -/
lemma exists_binade (x : Binary64) : ∃ binade : ℕ, 1 ≤ binade ∧ x.exponent = binade - 1075 ∧
    x.code + fractionSize = x.significand + fractionSize * binade ∧
    x.significand < 2 * fractionSize ∧ (1 < binade → fractionSize ≤ x.significand) := by
  have hpos : 0 < fractionSize := by decide
  by_cases hsmall : x.code < fractionSize
  · refine ⟨1, le_rfl, ?_, ?_, ?_, fun h => absurd h (lt_irrefl 1)⟩
    · rw [exponent, if_pos hsmall]
      rfl
    · rw [significand, if_pos hsmall, Nat.mul_one]
    · rw [significand, if_pos hsmall]
      omega
  · have hdiv := Nat.div_add_mod x.code fractionSize
    have hmod := Nat.mod_lt x.code hpos
    have hone : 1 ≤ x.code / fractionSize := (Nat.one_le_div_iff hpos).mpr (not_lt.mp hsmall)
    refine ⟨x.code / fractionSize, hone, ?_, ?_, ?_, fun _ => ?_⟩
    · rw [exponent, if_neg hsmall]
    · rw [significand, if_neg hsmall]
      omega
    · rw [significand, if_neg hsmall]
      omega
    · rw [significand, if_neg hsmall]
      omega

/-- What lies a part of a unit above the magnitude. -/
def reach (x : Binary64) (part : ℚ) : ℚ := (x.significand + part) * 2 ^ x.exponent

/-- **Magnitudes are ordered as their codes**, also with the same part of a unit above them. -/
theorem reach_le_of_code_le {x y : Binary64} (h : x.code ≤ y.code) {part : ℚ} (hnonneg : 0 ≤ part)
    (hone : part ≤ 1) : x.reach part ≤ y.reach part := by
  obtain ⟨a, ha, hexp, hcode, hlt, hle⟩ := x.exists_binade
  obtain ⟨b, hb, hexp', hcode', hlt', hle'⟩ := y.exists_binade
  rw [reach, reach, hexp, hexp']
  rcases Nat.lt_trichotomy a b with hbelow | rfl | habove
  · have hfraction : (x.significand : ℚ) + 1 ≤ 2 * fractionSize := by exact_mod_cast hlt
    have hfraction' : (fractionSize : ℚ) ≤ y.significand := by exact_mod_cast hle' (by omega)
    have hexponent : (a : ℤ) - 1075 + 1 ≤ b - 1075 := by omega
    calc (x.significand + part) * 2 ^ ((a : ℤ) - 1075)
        ≤ 2 * fractionSize * 2 ^ ((a : ℤ) - 1075) := by
          gcongr
          linarith
      _ = fractionSize * 2 ^ ((a : ℤ) - 1075 + 1) := by
          rw [zpow_add₀ (by norm_num), zpow_one]
          ring
      _ ≤ (y.significand + part) * 2 ^ ((b : ℤ) - 1075) := by
          gcongr
          · linarith
          · norm_num
  · have hsignificand : (x.significand : ℚ) ≤ y.significand := by
      exact_mod_cast (by omega : x.significand ≤ y.significand)
    gcongr
  · have hscaled := Nat.mul_le_mul_left fractionSize habove
    rw [Nat.mul_add_one] at hscaled
    have := hle (by omega)
    omega

lemma magnitude_le_of_code_le {x y : Binary64} (h : x.code ≤ y.code) :
    x.magnitude ≤ y.magnitude := by
  have hreach := reach_le_of_code_le h le_rfl zero_le_one
  rwa [reach, reach, add_zero, add_zero] at hreach

lemma magnitude_nonneg (x : Binary64) : 0 ≤ x.magnitude := by
  rw [magnitude]
  positivity

end Binary64

end ObjectMemory.Decimal
