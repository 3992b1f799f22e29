import ObjectMemory.Proofs.Json.Numerals

/-!
# Printed numbers are read

A reader values a printed number, and never refuses it as too large.  An integer is read as itself.
A double is read as a double near it, which need not be the same one: its digits are collected and
scaled in rounded steps.  What has to be seen is that these stay in range, and they do because the
digits that are collected do not stand for more than the numeral does.

* `collect_le`, `decimal_le` — what is collected is not more than what is spelled;
* `Numeral.exists_double` — a numeral that is not past the limit is read;
* `floatNumeral_value` — what is printed for a double is its shortest decimal;
* **`Number.exists_number`** — every printed number is read;
* `Number.reread` — as which number.
-/

namespace ObjectMemory.Json

open Decimal Text

/-! ## Collecting digits -/

lemma le_ofDigitChars (digits : List Char) (n : ℕ) :
    n * 10 ^ digits.length ≤ Nat.ofDigitChars 10 digits n := by
  rw [Nat.ofDigitChars_eq_ofDigitChars_zero, Nat.mul_comm]
  exact Nat.le_add_right ..

/-- What is collected stays below the bound, and with the places that were left out it is no more
than what is spelled. -/
lemma collect_le (digits : List Char) : ∀ {n : ℕ}, n < 0x10000000000000000 →
    (collect n digits).1 < 0x10000000000000000 ∧
      (collect n digits).2.length ≤ digits.length ∧
      (collect n digits).1 * 10 ^ (collect n digits).2.length ≤ Nat.ofDigitChars 10 digits n := by
  induction digits with
  | nil => exact fun hn => ⟨hn, le_rfl, by simp [collect]⟩
  | cons c rest ih =>
      intro n hn
      rw [collect]
      split_ifs with hfits
      · obtain ⟨hlt, hlength, hle⟩ := ih hfits
        refine ⟨hlt, hlength.trans (Nat.le_succ _), ?_⟩
        rwa [Nat.ofDigitChars_cons, Nat.mul_comm 10 n]
      · exact ⟨hn, le_rfl, le_ofDigitChars _ n⟩

/-- Digits that spell a number below the bound are all collected. -/
lemma collect_of_lt (digits : List Char) : ∀ {n : ℕ},
    Nat.ofDigitChars 10 digits n < 0x10000000000000000 →
      collect n digits = (Nat.ofDigitChars 10 digits n, []) := by
  induction digits with
  | nil => exact fun _ => rfl
  | cons c rest ih =>
      intro n hn
      rw [Nat.ofDigitChars_cons, Nat.mul_comm 10 n] at hn ⊢
      have hnext : n * 10 + digitValue c < 0x10000000000000000 := by
        refine lt_of_le_of_lt ?_ hn
        exact (Nat.le_mul_of_pos_right _ (Nat.pow_pos (by decide))).trans (le_ofDigitChars rest _)
      rw [collect, if_pos hnext]
      exact ih hn

/-- The digits of an exponent are read as the number they spell, unless it is too large. -/
lemma exponentValue_cases (digits : List Char) : ∀ n : ℕ,
    exponentValue n digits = .ok (Nat.ofDigitChars 10 digits n) ∨
      ∃ unseen, exponentValue n digits = .error unseen ∧
        0x80000000 ≤ Nat.ofDigitChars 10 digits n := by
  induction digits with
  | nil => exact fun _ => .inl rfl
  | cons c rest ih =>
      intro n
      rw [exponentValue, Nat.ofDigitChars_cons, Nat.mul_comm 10 n]
      split_ifs with hfits
      · exact ih _
      · refine .inr ⟨rest, rfl, (not_lt.mp hfits).trans ?_⟩
        exact (Nat.le_mul_of_pos_right _ (Nat.pow_pos (by decide))).trans (le_ofDigitChars rest _)

/-! ## The value of a numeral -/

/-- The digits of a numeral before and behind the point. -/
def Numeral.places (numeral : Numeral) : List Char := numeral.whole ++ numeral.fraction.getD []

/-- The power of ten that the digits before the point are in units of. -/
def Numeral.power (numeral : Numeral) : ℤ :=
  match numeral.exponent with
  | some written =>
    if written.negative then -(ofDigits written.digits : ℤ) else ofDigits written.digits
  | none => 0

/-- The number that a numeral spells, without its sign. -/
def Numeral.value (numeral : Numeral) : ℚ :=
  ofDigits numeral.places * 10 ^ (numeral.power - (numeral.fraction.getD []).length)

lemma decimal_le {numeral : Numeral} (hwhole : ofDigits numeral.whole < 0x10000000000000000) :
    numeral.decimal.1 < 0x10000000000000000 ∧
      (numeral.decimal.1 : ℚ) * 10 ^ (numeral.power + numeral.decimal.2) ≤ numeral.value := by
  have hcollect := collect_of_lt numeral.whole hwhole
  obtain ⟨hlt, hlength, hle⟩ := collect_le (numeral.fraction.getD []) hwhole
  rw [Numeral.value, Numeral.places, Numeral.decimal, hcollect]
  dsimp only [ofDigits] at *
  rw [Nat.ofDigitChars_append]
  rcases hrest : collect (Nat.ofDigitChars 10 numeral.whole 0) (numeral.fraction.getD [])
    with ⟨all, cut⟩
  rw [hrest] at hlt hlength hle
  refine ⟨hlt, ?_⟩
  have hpower : numeral.power + ((([] : List Char).length : ℤ)
        - ((numeral.fraction.getD []).length - cut.length : ℕ))
      = cut.length + (numeral.power - (numeral.fraction.getD []).length) := by
    rw [List.length_nil, Nat.cast_sub hlength]
    push_cast
    ring
  dsimp only at *
  rw [hpower, zpow_add₀ (by norm_num), ← mul_assoc, zpow_natCast]
  gcongr
  exact_mod_cast hle

/-- **A numeral that is not past the limit is read.** -/
lemma Numeral.exists_double {numeral : Numeral}
    (hwhole : ofDigits numeral.whole < 0x10000000000000000)
    (hvalue : numeral.value ≤ Binary64.safeLimit) (hpower : numeral.power < 0x80000000) :
    ∃ x, numeral.double = .ok x := by
  obtain ⟨hlt, hle⟩ := decimal_le hwhole
  obtain ⟨y, hy⟩ := Binary64.exists_scaleTen hlt (hle.trans hvalue)
  rw [double]
  rcases hdecimal : numeral.decimal with ⟨digits, unit⟩
  rw [hdecimal] at hy
  rw [power] at hy hpower
  dsimp only at *
  cases hexponent : numeral.exponent with
  | none =>
      rw [hexponent, Int.zero_add] at hy
      simp only [hy]
      exact ⟨_, rfl⟩
  | some written =>
      simp only [hexponent] at hy hpower ⊢
      rcases exponentValue_cases written.digits 0 with hread | ⟨unseen, hread, hlarge⟩
      · have hsame : (if written.negative = true then unit - Nat.ofDigitChars 10 written.digits 0
            else unit + Nat.ofDigitChars 10 written.digits 0)
            = (if written.negative = true then -(ofDigits written.digits : ℤ)
              else ofDigits written.digits) + unit := by
          rw [ofDigits]
          split_ifs <;> ring
        simp only [hread, hsame, hy]
        exact ⟨_, rfl⟩
      · -- a positive exponent is not as large
        have hnegative : written.negative = true := by
          by_contra hpositive
          rw [if_neg hpositive, ofDigits] at hpower
          omega
        simp only [hread, hnegative, or_true, if_true]
        exact ⟨_, rfl⟩

/-! ## Doubles -/

/-- A double has at most sixteen digits before its point. -/
lemma floatNumeral_whole_length (x : Binary64) : (floatNumeral x).whole.length ≤ 16 := by
  rw [floatNumeral]
  have hgreatest : numberLayout.greatest = 15 := rfl
  split
  · next hplace =>
      split_ifs <;> simp only [List.length_append, List.length_replicate, List.length_take,
        List.length_singleton] <;> omega
  · rw [List.length_take]
    omega

/-- **A double is printed as its shortest decimal.** -/
lemma floatNumeral_value (x : Binary64) : (floatNumeral x).value = x.shortest.value := by
  have hvalue : ofDigits (Nat.toDigits 10 x.shortest.digits) = x.shortest.digits :=
    ofDigits_toDigits _
  have hlength : 0 < (Nat.toDigits 10 x.shortest.digits).length := Nat.length_toDigits_pos
  rw [Shortest.value, ← hvalue, floatNumeral]
  generalize Nat.toDigits 10 x.shortest.digits = digits at *
  generalize x.shortest.unit = unit at *
  split
  · next hplace =>
      split_ifs with hunit hfirst
      · obtain ⟨n, rfl⟩ := Int.eq_ofNat_of_zero_le hunit
        have hzeros : ofDigits (digits ++ List.replicate n '0' ++ ['0'])
            = ofDigits digits * 10 ^ n * 10 := by
          rw [ofDigits, Nat.ofDigitChars_append, Nat.ofDigitChars_append,
            Nat.ofDigitChars_replicate_zero, ← ofDigits]
          simp only [Nat.ofDigitChars_cons, Nat.ofDigitChars_nil, Nat.sub_self, Nat.add_zero]
          ring
        simp only [Numeral.value, Numeral.places, Numeral.power, Option.getD_some,
          Int.toNat_natCast, hzeros, List.length_singleton]
        push_cast
        rw [zpow_natCast]
        norm_num
        ring
      · have hlength : ((digits.drop ((unit + (digits.length - 1)).toNat + 1)).length : ℤ)
            = -unit := by
          rw [List.length_drop]
          omega
        simp only [Numeral.value, Numeral.places, Numeral.power, Option.getD_some, hlength,
          List.take_append_drop, zero_sub, neg_neg]
      · have hzeros : ofDigits (['0']
            ++ (List.replicate (-(unit + (digits.length - 1)) - 1).toNat '0' ++ digits))
            = ofDigits digits := by
          rw [ofDigits, Nat.ofDigitChars_append, Nat.ofDigitChars_append,
            Nat.ofDigitChars_replicate_zero]
          rfl
        have hlength : ((List.replicate (-(unit + (digits.length - 1)) - 1).toNat '0'
            ++ digits).length : ℤ) = -unit := by
          rw [List.length_append, List.length_replicate]
          omega
        simp only [Numeral.value, Numeral.places, Numeral.power, Option.getD_some, hzeros, hlength,
          zero_sub, neg_neg]
  · have hfraction : (if (digits.drop 1).isEmpty = true then none else some (digits.drop 1)).getD []
        = digits.drop 1 := by
      split_ifs with hempty
      · exact (List.isEmpty_iff.mp hempty).symm
      · rfl
    have hpower : (if decide (unit + (digits.length - 1) < 0) = true then
          -(ofDigits (Nat.toDigits 10 (unit + (digits.length - 1)).natAbs) : ℤ)
        else ofDigits (Nat.toDigits 10 (unit + (digits.length - 1)).natAbs))
        = unit + (digits.length - 1) := by
      rw [ofDigits_toDigits]
      split_ifs with hsign
      · have := of_decide_eq_true hsign
        omega
      · have := of_decide_eq_false (Bool.eq_false_iff.mpr hsign)
        omega
    have hunit : unit + (digits.length - 1) - ((digits.drop 1).length : ℤ) = unit := by
      rw [List.length_drop]
      omega
    simp only [Numeral.value, Numeral.places, Numeral.power, hfraction, hpower, hunit,
      List.take_append_drop]

/-! ## Every number -/

/-- The power of ten of the first digit is no more than the number. -/
lemma ten_zpow_first_le {decimal : Shortest} (h : decimal.digits ≠ 0) :
    (10 : ℚ) ^ (decimal.unit + ((Nat.toDigits 10 decimal.digits).length - 1)) ≤ decimal.value := by
  have hlength : 0 < (Nat.toDigits 10 decimal.digits).length := Nat.length_toDigits_pos
  obtain ⟨places, hplaces⟩ : ∃ places, (Nat.toDigits 10 decimal.digits).length = places + 1 :=
    ⟨_, (Nat.succ_pred_eq_of_pos hlength).symm⟩
  have hdigits : 10 ^ places ≤ decimal.digits := by
    by_contra hlt
    rcases Nat.eq_zero_or_pos places with rfl | hpos
    · exact h (by omega)
    · have := (Nat.length_toDigits_le_iff (by decide) hpos).mpr (not_le.mp hlt)
      omega
  rw [hplaces, Nat.cast_add, Nat.cast_one, add_sub_cancel_right, zpow_add₀ (by norm_num),
    zpow_natCast, mul_comm, Shortest.value]
  gcongr
  exact_mod_cast hdigits

/-- An exponent is never so large that its digits are not all looked at. -/
lemma floatNumeral_power_lt {x : Binary64} (h : x.shortest.value ≤ Binary64.safeLimit) :
    (floatNumeral x).power < 0x80000000 := by
  have hfirst : x.shortest.unit + ((Nat.toDigits 10 x.shortest.digits).length - 1)
      < (Binary64.tenLimit + 1 : ℕ) := by
    rcases x.shortest_spec with hzero | ⟨hne, -⟩
    · rw [hzero]
      decide
    · have hlimit : (Binary64.safeLimit : ℚ) < 10 ^ ((Binary64.tenLimit + 1 : ℕ) : ℤ) := by
        rw [zpow_natCast]
        exact_mod_cast Binary64.safeLimit_lt
      exact (zpow_lt_zpow_iff_right₀ (by norm_num)).mp
        (((ten_zpow_first_le hne).trans h).trans_lt hlimit)
  have hten : Binary64.tenLimit = 308 := rfl
  rw [floatNumeral]
  generalize x.shortest.unit + ((Nat.toDigits 10 x.shortest.digits).length - 1) = first at *
  split
  · split_ifs <;> exact (by decide : (0 : ℤ) < 0x80000000)
  · simp only [Numeral.power, ofDigits_toDigits, decide_eq_true_eq]
    split_ifs <;> omega

/-- The greatest double is read again, although it is past the limit. -/
lemma exists_double_greatest (negative : Bool) :
    (floatNumeral ⟨negative, 0x7fefffffffffffff, by decide⟩).double.isOk = true := by
  cases negative <;> decide +kernel

lemma exists_double (x : Binary64) : ∃ y, (floatNumeral x).double = .ok y := by
  rcases Nat.lt_or_ge x.code 0x7fefffffffffffff with hlt | hge
  · have hvalue : x.shortest.value ≤ Binary64.safeLimit := by
      rcases x.shortest_spec with hzero | ⟨-, hle⟩
      · rw [hzero, Shortest.value, Nat.cast_zero, zero_mul]
        exact Nat.cast_nonneg _
      · exact hle.trans (Binary64.reach_le_safeLimit hlt)
    have hwhole := (ofDigits_lt (floatNumeral_wellFormed x).whole.1).trans_le
      (Nat.pow_le_pow_right (by decide) (floatNumeral_whole_length x))
    exact Numeral.exists_double (hwhole.trans (by decide)) ((floatNumeral_value x).trans_le hvalue)
      (floatNumeral_power_lt hvalue)
  · obtain ⟨negative, code, finite⟩ := x
    obtain rfl : code = 0x7fefffffffffffff := by
      dsimp only at hge
      omega
    have hgreatest := exists_double_greatest negative
    cases hdouble : (floatNumeral ⟨negative, 0x7fefffffffffffff, finite⟩).double with
    | error unseen =>
        rw [hdouble] at hgreatest
        cases hgreatest
    | ok y => exact ⟨y, rfl⟩

/-- A double is not printed as an integer. -/
lemma floatNumeral_integer? (x : Binary64) : (floatNumeral x).integer? = none := by
  rw [floatNumeral]
  split
  · split_ifs <;> rfl
  · rw [Numeral.integer?]
    dsimp only
    split <;> simp_all

/-- The numeral of an integer stands for it. -/
lemma number_of_integer (n : ℤ) (inRange : -0x8000000000000000 ≤ n ∧ n < 0x10000000000000000) :
    (Number.integer n inRange).numeral.number = .ok (.integer n inRange) := by
  rcases Int.lt_or_le n 0 with hneg | hpos
  · have hbounds : 0 < n.natAbs ∧ n.natAbs ≤ 0x8000000000000000 := by omega
    have habs : -|n| = n := by rw [abs_of_neg hneg, neg_neg]
    simp [Number.numeral, Numeral.number, Numeral.integer?, hneg, hbounds, habs]
  · have hbound : n.natAbs < 0x10000000000000000 := by omega
    have habs : |n| = n := abs_of_nonneg hpos
    simp [Number.numeral, Numeral.number, Numeral.integer?, not_lt.mpr hpos, hbound, habs]

/-- The number that a printed number is read as. -/
def Number.reread (n : Number) : Number :=
  match n.numeral.number with
  | .ok m => m
  | .error _ => n

/-- **Every printed number is read**: an integer as itself, and a double as a double. -/
theorem Number.number_numeral (n : Number) : n.numeral.number = .ok n.reread := by
  have hread : ∃ m, n.numeral.number = .ok m := by
    cases n with
    | integer n inRange => exact ⟨_, number_of_integer n inRange⟩
    | float x =>
        obtain ⟨y, hy⟩ := exists_double x
        refine ⟨.float y, ?_⟩
        rw [numeral, Numeral.number, floatNumeral_integer?, hy]
        rfl
  obtain ⟨m, hm⟩ := hread
  rw [reread, hm]

lemma Number.reread_integer (n : ℤ)
    (inRange : -0x8000000000000000 ≤ n ∧ n < 0x10000000000000000) :
    (Number.integer n inRange).reread = .integer n inRange := by
  rw [reread, number_of_integer]

/-- A number is taken off a text again as what it is read as. -/
lemma readNumber_digits (n : Number) {rest : List Char} (hrest : EndsNumber rest) :
    readNumber n.numeral.negative (n.numeral.digits ++ rest) = .ok (n.reread, rest) := by
  simp only [readNumber, readNumeral_digits n.numeral_wellFormed hrest, n.number_numeral, bind,
    Except.bind]
  rfl

end ObjectMemory.Json
