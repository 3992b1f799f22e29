import ObjectMemory.Decimal.Shortest
import ObjectMemory.Proofs.Decimal.Range

/-!
# Shortest digits within the range

The digits that are written for a double stand for a decimal at most half a unit above it, since
otherwise they would read back as another one.  So what is written for any double but the greatest
stays below the limit up to which a decimal can be scaled; the greatest one has digits of its own.

* `Shortest.value` — what digits stand for;
* `gridPoint_spec`, `shortest_spec` — where the search ends;
* `reach_le_safeLimit` — all doubles but the greatest.
-/

namespace ObjectMemory.Decimal

/-- The decimal that digits stand for. -/
def Shortest.value (decimal : Shortest) : ℚ := decimal.digits * 10 ^ decimal.unit

namespace Binary64

variable {x : Binary64}

lemma pow_div_pow_toNat (unit : ℤ) :
    ((Nat.pow 10 (-unit).toNat : ℕ) : ℚ) / (Nat.pow 10 unit.toNat : ℕ) = 10 ^ (-unit) := by
  rw [Nat.pow_eq, Nat.pow_eq]
  push_cast
  obtain ⟨n, rfl | rfl⟩ := unit.eq_nat_or_neg
  · rw [Int.toNat_natCast, Int.toNat_neg_natCast, zpow_neg, zpow_natCast, pow_zero, one_div]
  · rw [neg_neg, Int.toNat_natCast, Int.toNat_neg_natCast, zpow_natCast, pow_zero, div_one]

/-- Quarters of a unit, in units of a power of ten. -/
lemma quarter_ratio (x : Binary64) (unit : ℤ) :
    ((x.quarter.1 * Nat.pow 10 (-unit).toNat : ℕ) : ℚ) / (x.quarter.2 * Nat.pow 10 unit.toNat : ℕ)
      = 2 ^ (x.exponent - 2) * 10 ^ (-unit) := by
  have hquarter : ((x.quarter.1 : ℕ) : ℚ) / (x.quarter.2 : ℕ) = 2 ^ (x.exponent - 2) := by
    have hshift := shift_div_shift 1 1 (x.exponent - 2)
    rw [neg_sub] at hshift
    rw [quarter, hshift, Nat.cast_one, div_one, one_mul]
  rw [Nat.cast_mul, Nat.cast_mul, mul_div_mul_comm, hquarter, pow_div_pow_toNat]

/-- What lies between two ends, with or without them, is not past either. -/
lemma between_of_reads {closed : Bool} {low n high : ℕ}
    (h : (if closed then decide (low ≤ n) && decide (n ≤ high)
      else decide (low < n) && decide (n < high)) = true) : low ≤ n ∧ n ≤ high := by
  split_ifs at h <;> simp only [Bool.and_eq_true, decide_eq_true_eq] at h
  · exact h
  · exact ⟨h.1.le, h.2.le⟩

/-- A point of a grid lies between the ends of what reads back. -/
lemma ends_of_gridPoint {unit : ℤ} {n : ℕ} (h : x.gridPoint unit = some n) :
    x.readBackEnds.1 * (x.quarter.1 * Nat.pow 10 (-unit).toNat)
        ≤ n * (x.quarter.2 * Nat.pow 10 unit.toNat) ∧
      n * (x.quarter.2 * Nat.pow 10 unit.toNat)
        ≤ x.readBackEnds.2 * (x.quarter.1 * Nat.pow 10 (-unit).toNat) := by
  rw [gridPoint] at h
  dsimp only at h
  split at h
  · next hbelow habove =>
      obtain rfl := Option.some.inj h
      split_ifs
      · exact between_of_reads hbelow
      · exact between_of_reads habove
  · next hbelow _ =>
      obtain rfl := Option.some.inj h
      exact between_of_reads hbelow
  · next _ habove =>
      obtain rfl := Option.some.inj h
      exact between_of_reads habove
  · cases h

/-- A point that reads back as a magnitude other than zero is not zero, and is at most half a unit
above the magnitude. -/
lemma gridPoint_spec {unit : ℤ} {n : ℕ} (hx : x.isZero = false)
    (h : x.gridPoint unit = some n) : n ≠ 0 ∧ (n : ℚ) * 10 ^ unit ≤ x.reach (1 / 2) := by
  obtain ⟨hlow, hhigh⟩ := ends_of_gridPoint h
  have hscale : 0 < x.quarter.1 * Nat.pow 10 (-unit).toNat :=
    Nat.mul_pos (shifted_pos Nat.one_pos _) (Nat.pow_pos (by decide))
  have hbase : 0 < x.quarter.2 * Nat.pow 10 unit.toNat :=
    Nat.mul_pos (shifted_pos Nat.one_pos _) (Nat.pow_pos (by decide))
  constructor
  · rintro rfl
    have hsignificand : 0 < x.significand := by
      have hcode : x.code ≠ 0 := by simpa [isZero] using hx
      have hsize : 0 < fractionSize := by decide
      rw [significand]
      split_ifs <;> omega
    have hend : 0 < x.readBackEnds.1 := by
      rw [readBackEnds]
      split_ifs <;> omega
    have := Nat.mul_pos hend hscale
    omega
  · have hratio := quarter_ratio x unit
    rw [div_eq_iff (by positivity)] at hratio
    have hcast : (n : ℚ) * (x.quarter.2 * Nat.pow 10 unit.toNat : ℕ)
        ≤ (4 * x.significand + 2) * (x.quarter.1 * Nat.pow 10 (-unit).toNat : ℕ) := by
      exact_mod_cast hhigh
    rw [hratio, ← mul_assoc] at hcast
    have hpoint := le_of_mul_le_mul_right hcast (by exact_mod_cast hbase)
    calc (n : ℚ) * 10 ^ unit
        ≤ (4 * x.significand + 2) * (2 ^ (x.exponent - 2) * 10 ^ (-unit)) * 10 ^ unit := by
          gcongr
      _ = (4 * x.significand + 2) * 2 ^ (x.exponent - 2) * (10 ^ (-unit) * 10 ^ unit) := by ring
      _ = x.reach (1 / 2) := by
          rw [← zpow_add₀ (by norm_num), neg_add_cancel, zpow_zero, mul_one,
            zpow_sub₀ (by norm_num), reach]
          norm_num
          ring

lemma coarsest_spec (hx : x.isZero = false) (steps : ℕ) : ∀ unit : ℤ,
    x.coarsest unit steps = ⟨0, 0⟩ ∨
      (x.coarsest unit steps).digits ≠ 0 ∧ (x.coarsest unit steps).value ≤ x.reach (1 / 2) := by
  induction steps with
  | zero => exact fun _ => .inl rfl
  | succ steps ih =>
      intro unit
      rw [coarsest]
      split
      · next digits hpoint => exact .inr (gridPoint_spec hx hpoint)
      · exact ih (unit - 1)

/-- What is written for a number is a plain zero, or no zero and at most half a unit above it. -/
lemma shortest_spec (x : Binary64) : x.shortest = ⟨0, 0⟩ ∨
    x.shortest.digits ≠ 0 ∧ x.shortest.value ≤ x.reach (1 / 2) := by
  rw [shortest]
  split_ifs with hzero
  · exact .inl rfl
  · exact coarsest_spec (by simpa using hzero) 20 x.ceilingTen

/-! ## The greatest numbers -/

/-- The magnitude before the greatest. -/
def secondGreatest : Binary64 := ⟨false, 0x7feffffffffffffe, by decide⟩

lemma secondGreatest_reach : secondGreatest.reach (1 / 2) = safeLimit := by
  have hlimit : safeLimit = (2 ^ 54 - 3) * 2 ^ 970 := by decide +kernel
  have hsignificand : secondGreatest.significand = 2 ^ 53 - 2 := by decide
  have hexponent : secondGreatest.exponent = (971 : ℕ) := by decide
  rw [reach, hsignificand, hexponent, hlimit, zpow_natCast, pow_succ (2 : ℚ) 970, Nat.cast_mul,
    Nat.cast_pow, Nat.cast_ofNat]
  generalize (2 : ℚ) ^ 970 = unit
  norm_num
  ring

/-- Every number but the greatest is half a unit below the limit. -/
lemma reach_le_safeLimit (h : x.code < 0x7fefffffffffffff) :
    x.reach (1 / 2) ≤ safeLimit := by
  have hcode : x.code ≤ secondGreatest.code := Nat.le_of_lt_succ h
  exact (reach_le_of_code_le hcode (by norm_num) (by norm_num)).trans_eq secondGreatest_reach

end Binary64

end ObjectMemory.Decimal
