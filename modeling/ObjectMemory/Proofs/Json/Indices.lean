import ObjectMemory.Json.Plain
import ObjectMemory.Proofs.Decimal.Range
import ObjectMemory.Proofs.Text.Numbers

/-!
# Whole numbers and their decimal texts as indices

An index may come as a number or as a text.  Inside of the signed 64-bit range the two ways agree:
the decimal text of a number, with or without blanks around it, is the same index as the number.
Past that range they part, since a number counts as the end of the range (`toInt_clamp`), which is
what becomes of the double nearest to it, and its text is no index.

* `toInt_clamp`, `index?_nearest` — numbers past the range, and the doubles nearest to them;
* `toList_toString`, `readSigned_integerChars` — the decimal text of a number, and reading it;
* **`index?_decimal`** — the index that the text of a number is.
-/

namespace ObjectMemory.Json

open Text Decimal

/-- The whole numbers that are signed 64-bit numbers. -/
def IsSigned (n : ℤ) : Prop := -0x8000000000000000 ≤ n ∧ n < 0x8000000000000000

instance (n : ℤ) : Decidable (IsSigned n) := inferInstanceAs (Decidable (_ ∧ _))

/-! ## Numbers -/

lemma toInt_clamp (n : ℤ) :
    (clamp n).toInt = max (-0x8000000000000000) (min n 0x7fffffffffffffff) := by
  rw [clamp]
  exact Int64.toInt_ofInt_of_le (by omega) (by omega)

/-- A signed 64-bit number is nearest to itself. -/
lemma clamp_of_isSigned {n : ℤ} (h : IsSigned n) : clamp n = Int64.ofInt n := by
  obtain ⟨hlower, hupper⟩ := h
  rw [clamp, min_eq_left (by omega), max_eq_right hlower]

lemma clamp_of_le {n : ℤ} (h : 0x8000000000000000 ≤ n) : clamp n = Int64.maxValue := by
  refine Int64.toInt_inj.mp ?_
  rw [toInt_clamp]
  have hmax : Int64.maxValue.toInt = 0x7fffffffffffffff := by decide
  omega

/-- The double nearest to a number past the signed range is whole, and past the range as well. -/
lemma exists_nearest {n : ℕ} (h : 0x8000000000000000 ≤ n) (hn : n < 0x10000000000000000) :
    ∃ x, Binary64.ofNat n = some x ∧ x.isIntegral = true ∧ 0x8000000000000000 ≤ x.truncate := by
  have hsmall : 0x10000000000000000 ≤ 10 ^ Binary64.tenLimit :=
    (by norm_num : 0x10000000000000000 ≤ 10 ^ 20).trans
      (Nat.pow_le_pow_right (by decide) (by decide))
  obtain ⟨x, hx⟩ := Binary64.exists_ofNat (hn.le.trans hsmall)
  have hfirst : Binary64.ofNat 0x8000000000000000
      = some ⟨false, 0x43e0000000000000, by decide⟩ := by decide +kernel
  have hcode : 0x43e0000000000000 ≤ x.code := Binary64.ofNat_mono h hfirst hx
  -- from there on the unit of a double is a power of two from 2 ^ 11 up
  have hplace : 1086 ≤ x.code / Binary64.fractionSize := by
    rw [Nat.le_div_iff_mul_le (by decide)]
    exact hcode
  have hlarge : ¬ x.code < Binary64.fractionSize := by
    rw [Binary64.fractionSize]
    omega
  have hunit : 11 ≤ x.exponent := by
    rw [Binary64.exponent, if_neg hlarge]
    omega
  have hsignificand : Binary64.fractionSize ≤ x.significand := by
    rw [Binary64.significand, if_neg hlarge]
    exact Nat.le_add_right _ _
  have hdenominator : x.denominator = 1 := by
    rw [Binary64.denominator, show (-x.exponent).toNat = 0 by omega, Nat.shiftLeft_zero]
  have hnumerator : 0x8000000000000000 ≤ x.numerator := by
    rw [Binary64.numerator, Nat.shiftLeft_eq]
    calc 0x8000000000000000 = Binary64.fractionSize * 2 ^ 11 := by decide
      _ ≤ x.significand * 2 ^ x.exponent.toNat :=
        Nat.mul_le_mul hsignificand (Nat.pow_le_pow_right (by decide) (by omega))
  refine ⟨x, hx, by rw [Binary64.isIntegral, hdenominator, Nat.mod_one]; rfl, ?_⟩
  have hnegative : x.negative = false := by
    rw [Binary64.ofNat, Binary64.ofRatio] at hx
    split at hx
    · rw [← Option.some.inj hx]
    · cases hx
  rw [Binary64.truncate, hnegative, hdenominator, Nat.div_one, if_neg Bool.false_ne_true]
  exact_mod_cast hnumerator

/-- Past the signed range a number is the index that the double nearest to it is. -/
lemma index?_nearest {n : ℤ} (inRange : -0x8000000000000000 ≤ n ∧ n < 0x10000000000000000)
    (h : 0x8000000000000000 ≤ n) :
    ∃ x, Binary64.ofNat n.toNat = some x ∧
      (Value.num (.float x)).index? = (Value.num (.integer n inRange)).index? := by
  obtain ⟨x, hx, hintegral, hlarge⟩ := exists_nearest (n := n.toNat) (by omega) (by omega)
  refine ⟨x, hx, ?_⟩
  rw [Value.index?, Value.index?, if_pos hintegral, clamp_of_le hlarge, clamp_of_le h]

/-! ## Texts -/

lemma toList_toString (n : ℤ) : (toString n).toList = integerChars n := by
  cases n with
  | ofNat m =>
      rw [integerChars, if_neg (by simp)]
      exact Nat.toList_repr
  | negSucc m =>
      rw [integerChars, if_pos (Int.negSucc_lt_zero m)]
      change ("-" ++ m.succ.repr).toList = _
      rw [String.toList_append, Nat.toList_repr]
      rfl

lemma filter_isSigned (n : ℤ) :
    ((some n).filter fun n => -0x8000000000000000 ≤ n && n < 0x8000000000000000).map Int64.ofInt
      = if IsSigned n then some (Int64.ofInt n) else none := by
  by_cases h : IsSigned n
  · rw [if_pos h, Option.filter_some_pos (by simpa [IsSigned] using h), Option.map_some]
  · rw [if_neg h, Option.filter_some_neg (by simpa [IsSigned] using h), Option.map_none]

/-- The decimal text of a number is read as the number, if it is a signed 64-bit number. -/
lemma readSigned_integerChars (n : ℤ) :
    readSigned (integerChars n) = if IsSigned n then some (Int64.ofInt n) else none := by
  rw [← filter_isSigned, integerChars]
  split_ifs with hneg
  · have hnumber : -(n.natAbs : ℤ) = n := by omega
    rw [readSigned, readNatural_eq_some_iff.mpr (digitsOf_toDigits _)]
    simp only [Option.bind_eq_bind, Option.bind_some, Option.pure_def, Option.map_some, hnumber]
  · rw [readSigned, readNatural_eq_some_iff.mpr (digitsOf_toDigits _), Option.map_some,
      show Int.ofNat n.natAbs = n from Int.natAbs_of_nonneg (by omega)]
    · exact (digitsOf_toDigits _).ne_cons rfl
    · exact (digitsOf_toDigits _).ne_cons rfl

lemma isBlank_integerChars (n : ℤ) : ∀ c ∈ integerChars n, Text.isBlank c = false := by
  intro c hc
  rw [integerChars] at hc
  split_ifs at hc
  · rcases List.mem_cons.mp hc with rfl | hdigit
    · rfl
    · exact isBlank_of_isDigit (isDigit_toDigits _ c hdigit)
  · exact isBlank_of_isDigit (isDigit_toDigits _ c hc)

/-- A number and its decimal text between blanks.  The text of a signed 64-bit number is the same
index as the number; a number past that range is an index, and its text is none. -/
theorem index?_decimal {n : ℤ} (inRange : -0x8000000000000000 ≤ n ∧ n < 0x10000000000000000)
    {before after : List Char} (hbefore : ∀ c ∈ before, Text.isBlank c = true)
    (hafter : ∀ c ∈ after, Text.isBlank c = true) :
    (Value.num (.integer n inRange)).index? = some (clamp n) ∧
    (Value.str (.ofList (before ++ ((toString n).toList ++ after)))).index?
      = if n < 0x8000000000000000 then some (clamp n) else none := by
  have hinner := isBlank_integerChars n
  refine ⟨rfl, ?_⟩
  rw [Value.index?, toList_toString, trim_surrounded hbefore hafter
    (fun c hc => hinner c (List.mem_of_mem_head? hc))
    (fun c hc => hinner c (List.mem_of_mem_getLast? hc)), String.toList_ofList,
    readSigned_integerChars]
  by_cases hlarge : n < 0x8000000000000000
  · have hsigned : IsSigned n := ⟨inRange.1, hlarge⟩
    rw [if_pos hsigned, if_pos hlarge, clamp_of_isSigned hsigned]
  · rw [if_neg fun hsigned : IsSigned n => hlarge hsigned.2, if_neg hlarge]

end ObjectMemory.Json
