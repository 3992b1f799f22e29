import ObjectMemory.Proofs.Decimal.Rounding

/-!
# Scaling within the range

A reader of decimals scales a number below `2 ^ 64` by a power of ten, in rounded steps.  Each step
may end a little above the exact value, so a decimal near the greatest double may be refused though
it is in range.  Up to half a unit below the greatest double, none is (`exists_scaleTen`).

Division goes down, so it never leaves the range.  A product is bounded by that of the greatest
number which the decimal can have collected for its power of ten; that is one product for each
power, and they are computed.

* `safeLimit` — half a unit below the greatest double;
* `exists_shrinkTen` — scaling down;
* `mul_ceilings` — the greatest products; `exists_scaleTen` — scaling.
-/

namespace ObjectMemory.Decimal.Binary64

/-- Half way between the two greatest doubles. -/
def safeLimit : ℕ := 2 ^ 1024 - 2 ^ 971 - 2 ^ 970

variable {num den num' den' : ℕ}

lemma safeLimit_lt : safeLimit < 10 ^ (tenLimit + 1) := by decide +kernel

/-- What is no greater than a quotient in range is in range. -/
lemma exists_ofRatio (hden : 0 < den) (hden' : 0 < den') (h : (num / den : ℚ) ≤ num' / den')
    {code : ℕ} (hcode : nearestCode num' den' = code) (hfinite : code < 0x7ff0000000000000)
    (negative : Bool) :
    ∃ x, ofRatio negative num den = some x ∧ x.code ≤ code := by
  have hle := (nearestCode_mono hden hden' h).trans_eq hcode
  exact ⟨⟨negative, nearestCode num den, hle.trans_lt hfinite⟩, dif_pos _, hle⟩

lemma code_of_ofRatio {negative : Bool} {x : Binary64} (h : ofRatio negative num den = some x) :
    nearestCode num den = x.code := by
  rw [ofRatio] at h
  split at h
  · rw [← Option.some.inj h]
  · cases h

lemma ofNat_mono {m n : ℕ} {x y : Binary64} (h : m ≤ n) (hx : ofNat m = some x)
    (hy : ofNat n = some y) : x.code ≤ y.code := by
  rw [← code_of_ofRatio hx, ← code_of_ofRatio hy]
  refine nearestCode_mono Nat.one_pos Nat.one_pos ?_
  gcongr

/-- The greatest power of ten among the doubles is in range, and so are all lesser numbers. -/
lemma exists_ofNat {n : ℕ} (h : n ≤ 10 ^ tenLimit) : ∃ x, ofNat n = some x := by
  have hgreatest : nearestCode (10 ^ tenLimit) 1 = 0x7fe1ccf385ebc8a0 := by decide +kernel
  have hratio : (n : ℚ) / (1 : ℕ) ≤ (10 ^ tenLimit : ℕ) / (1 : ℕ) := by gcongr
  obtain ⟨x, hx, -⟩ :=
    exists_ofRatio Nat.one_pos Nat.one_pos hratio hgreatest (by decide) false
  exact ⟨x, hx⟩

/-! ## Down -/

/-- The double of `2 ^ 64`, which what a reader collects stays below. -/
def collectedLimit : Binary64 := ⟨false, 0x43f0000000000000, by decide⟩

def one : Binary64 := ⟨false, 0x3ff0000000000000, by decide⟩

lemma one_le_magnitude {n : ℕ} (hn : 0 < n) {x : Binary64} (hx : ofNat n = some x) :
    1 ≤ x.magnitude := by
  have hone : ofNat 1 = some one := by decide +kernel
  have hvalue : one.magnitude = 1 := by
    have hsignificand : one.significand = 2 ^ 52 := by decide
    have hexponent : one.exponent = -52 := by decide
    rw [magnitude, hsignificand, hexponent]
    norm_num
  rw [← hvalue]
  exact magnitude_le_of_code_le (ofNat_mono hn hone hx)

lemma exists_div {x y : Binary64} (hx : x.code ≤ collectedLimit.code) (hy : 1 ≤ y.magnitude) :
    ∃ z, x.div y = some z ∧ z.code ≤ collectedLimit.code := by
  have hself : nearestCode collectedLimit.numerator collectedLimit.denominator
      = collectedLimit.code := by
    decide +kernel
  have hnumerator : 0 < y.numerator := by
    rcases Nat.eq_zero_or_pos y.numerator with hzero | hpos
    · rw [← numerator_div_denominator, hzero, Nat.cast_zero, zero_div] at hy
      linarith
    · exact hpos
  refine exists_ofRatio (Nat.mul_pos x.denominator_pos hnumerator) collectedLimit.denominator_pos ?_
    hself collectedLimit.finite _
  calc ((x.numerator * y.denominator : ℕ) : ℚ) / (x.denominator * y.numerator : ℕ)
      = x.numerator / x.denominator / (y.numerator / y.denominator) := by
        push_cast
        rw [div_div_div_eq]
    _ = x.magnitude / y.magnitude := by rw [numerator_div_denominator, numerator_div_denominator]
    _ ≤ x.magnitude := div_le_self x.magnitude_nonneg hy
    _ ≤ collectedLimit.magnitude := magnitude_le_of_code_le hx
    _ = collectedLimit.numerator / collectedLimit.denominator :=
        (numerator_div_denominator _).symm

/-- A number that was collected can be scaled down, however far. -/
lemma exists_shrinkTen (steps : ℕ) :
    ∀ {x : Binary64} (power : ℕ), x.code ≤ collectedLimit.code →
      ∃ y, x.shrinkTen power steps = some y := by
  induction steps with
  | zero => exact fun _ _ => ⟨_, rfl⟩
  | succ steps ih =>
      intro x power hx
      rw [shrinkTen]
      split_ifs with hnear hzero
      · obtain ⟨ten, hten⟩ := exists_ofNat (Nat.pow_le_pow_right (by decide : 0 < 10) hnear)
        obtain ⟨y, hy, -⟩ := exists_div hx (one_le_magnitude (Nat.pow_pos (by decide)) hten)
        exact ⟨y, by rw [Nat.pow_eq, hten]; exact hy⟩
      · exact ⟨x, rfl⟩
      · obtain ⟨ten, hten⟩ := exists_ofNat (le_refl (10 ^ tenLimit))
        obtain ⟨y, hy, hcode⟩ := exists_div hx (one_le_magnitude (Nat.pow_pos (by decide)) hten)
        obtain ⟨z, hz⟩ := ih (power - tenLimit) hcode
        refine ⟨z, ?_⟩
        rw [Nat.pow_eq, hten, Option.bind_eq_bind, Option.bind_some, hy]
        exact hz

/-! ## Up -/

/-- The greatest number that a decimal can have collected for a power of ten. -/
def ceilingAt (power : ℕ) : ℕ := min (2 ^ 64 - 1) (safeLimit / 10 ^ power)

lemma mul_ceilings : ∀ power < tenLimit + 1,
    ((ofNat (ceilingAt power)).bind fun x => (ofNat (10 ^ power)).bind x.mul).isSome = true := by
  decide +kernel

lemma exists_mul_of_code_le {x a b c : Binary64} (h : x.code ≤ a.code) (hmul : a.mul b = some c) :
    ∃ y, x.mul b = some y := by
  have hratio : ((x.numerator * b.numerator : ℕ) : ℚ) / (x.denominator * b.denominator : ℕ)
      ≤ (a.numerator * b.numerator : ℕ) / (a.denominator * b.denominator : ℕ) := by
    push_cast
    rw [mul_div_mul_comm, mul_div_mul_comm, numerator_div_denominator, numerator_div_denominator,
      numerator_div_denominator]
    exact mul_le_mul_of_nonneg_right (magnitude_le_of_code_le h) b.magnitude_nonneg
  obtain ⟨y, hy, -⟩ := exists_ofRatio (Nat.mul_pos x.denominator_pos b.denominator_pos)
    (Nat.mul_pos a.denominator_pos b.denominator_pos) hratio (code_of_ofRatio hmul) c.finite _
  exact ⟨y, hy⟩

/-- **A decimal that is not past the limit can be scaled.** -/
theorem exists_scaleTen {n : ℕ} {power : ℤ} (hn : n < 2 ^ 64)
    (h : (n : ℚ) * 10 ^ power ≤ safeLimit) :
    ∃ y, (ofNat n >>= fun x => x.scaleTen power) = some y := by
  have hsmall : 2 ^ 64 ≤ 10 ^ tenLimit :=
    (by norm_num : 2 ^ 64 ≤ 10 ^ 20).trans (Nat.pow_le_pow_right (by decide) (by decide))
  obtain ⟨x, hx⟩ := exists_ofNat (hn.le.trans hsmall)
  rw [hx, Option.bind_eq_bind, Option.bind_some, scaleTen]
  split_ifs with hnonneg hnear hzero
  · obtain ⟨p, rfl⟩ := Int.eq_ofNat_of_zero_le hnonneg
    rw [Nat.pow_eq, Int.toNat_natCast]
    rw [zpow_natCast] at h
    have hp : p < tenLimit + 1 := by omega
    obtain ⟨c, hc⟩ := Option.isSome_iff_exists.mp (mul_ceilings p hp)
    obtain ⟨a, ha, hc⟩ := Option.bind_eq_some_iff.mp hc
    obtain ⟨b, hb, hmul⟩ := Option.bind_eq_some_iff.mp hc
    have hceiling : n ≤ ceilingAt p := by
      refine le_min (by omega) ((Nat.le_div_iff_mul_le (by positivity)).mpr ?_)
      exact_mod_cast h
    rw [hb]
    exact exists_mul_of_code_le (ofNat_mono hceiling hx ha) hmul
  · exact ⟨x, rfl⟩
  · -- nothing but zero is below the limit with so great a power of ten
    refine absurd ?_ hzero
    obtain ⟨p, rfl⟩ := Int.eq_ofNat_of_zero_le hnonneg
    rw [zpow_natCast] at h
    have hp : tenLimit + 1 ≤ p := by omega
    have hproduct : n * 10 ^ p ≤ safeLimit := by exact_mod_cast h
    have hpow : 10 ^ (tenLimit + 1) ≤ 10 ^ p := Nat.pow_le_pow_right (by decide) hp
    obtain rfl : n = 0 := by
      by_contra hne
      have hleast : 10 ^ p ≤ n * 10 ^ p := Nat.le_mul_of_pos_left _ (Nat.pos_of_ne_zero hne)
      exact lt_irrefl _ (safeLimit_lt.trans_le (hpow.trans (hleast.trans hproduct)))
    rw [isZero, ← code_of_ofRatio hx]
    rfl
  · refine exists_shrinkTen _ _ ?_
    have hlimit : ofNat (2 ^ 64) = some collectedLimit := by decide +kernel
    exact ofNat_mono hn.le hx hlimit

end ObjectMemory.Decimal.Binary64
