import Mathlib
import ObjectMemory.Text.Integer

/-!
# Runs of digits

What stands in front when a number is read off a text again.  The decimal digits of a number are
digits, at least one of them, and none of them is a leading zero unless the number is zero.  A
reader that takes digits while there are any therefore takes exactly them, as long as the text does
not go on with another one.

* `NoDigit` — the text does not go on with a digit;
* `takeWhile_digits`, `dropWhile_digits` — a run of digits in front of such a text;
* `ofDigits_lt` — what a run of digits can spell;
* `toDigits_eq_cons` — the first digit of a number.
-/

namespace ObjectMemory.Text

/-- The text does not go on with a digit. -/
def NoDigit (text : List Char) : Prop := ∀ c ∈ text.head?, c.isDigit = false

lemma noDigit_cons {c : Char} (rest : List Char) (h : c.isDigit = false) : NoDigit (c :: rest) := by
  intro d hd
  rw [List.head?_cons, Option.mem_some_iff] at hd
  rw [← hd, h]

lemma takeWhile_of_noDigit {text : List Char} (h : NoDigit text) :
    text.takeWhile Char.isDigit = [] := by
  cases text with
  | nil => rfl
  | cons c rest => rw [List.takeWhile_cons, h c rfl]; rfl

lemma dropWhile_of_noDigit {text : List Char} (h : NoDigit text) :
    text.dropWhile Char.isDigit = text := by
  cases text with
  | nil => rfl
  | cons c rest => rw [List.dropWhile_cons, h c rfl]; rfl

/-- The digits in front of a text that does not go on with one are all there are. -/
lemma takeWhile_digits {digits rest : List Char} (hd : ∀ c ∈ digits, c.isDigit = true)
    (hr : NoDigit rest) : (digits ++ rest).takeWhile Char.isDigit = digits := by
  rw [List.takeWhile_append_of_pos hd, takeWhile_of_noDigit hr, List.append_nil]

lemma dropWhile_digits {digits rest : List Char} (hd : ∀ c ∈ digits, c.isDigit = true)
    (hr : NoDigit rest) : (digits ++ rest).dropWhile Char.isDigit = rest := by
  rw [List.dropWhile_append_of_pos hd, dropWhile_of_noDigit hr]

/-! ## The digits of a number -/

lemma isDigit_toDigits (n : ℕ) : ∀ c ∈ Nat.toDigits 10 n, c.isDigit = true :=
  fun _ hc => Nat.isDigit_of_mem_toDigits (by decide) (by decide) hc

/-- The number that digits spell is bounded by how many they are. -/
lemma ofDigits_lt {digits : List Char} (h : ∀ c ∈ digits, c.isDigit = true) :
    ofDigits digits < 10 ^ digits.length := by
  rw [ofDigits]
  induction digits with
  | nil => decide
  | cons c rest ih =>
      have hc : c.toNat - '0'.toNat < 10 := by
        have hdigit := h c List.mem_cons_self
        simp only [Char.isDigit, Bool.and_eq_true, decide_eq_true_eq,
          UInt32.le_iff_toNat_le] at hdigit
        change 48 ≤ c.toNat ∧ c.toNat ≤ 57 at hdigit
        change c.toNat - 48 < 10
        omega
      have hrest := ih fun d hd => h d (List.mem_cons_of_mem _ hd)
      rw [Nat.ofDigitChars_cons, Nat.ofDigitChars_eq_ofDigitChars_zero, List.length_cons, pow_succ]
      rw [Nat.mul_zero, Nat.zero_add]
      nlinarith

/-- The digits of a number other than zero start with another digit than zero. -/
lemma toDigits_eq_cons {n : ℕ} (hn : n ≠ 0) :
    ∃ c rest, Nat.toDigits 10 n = c :: rest ∧ c ≠ '0' := by
  induction n using Nat.strong_induction_on with
  | _ n ih =>
      rcases Nat.lt_or_ge n 10 with hlt | hge
      · refine ⟨n.digitChar, [], Nat.toDigits_of_lt_base hlt, ?_⟩
        simpa using hn
      · obtain ⟨c, rest, heq, hc⟩ := ih (n / 10) (by omega) (by omega)
        refine ⟨c, rest ++ [(n % 10).digitChar], ?_, hc⟩
        rw [Nat.toDigits_of_base_le (by decide) hge, heq]
        rfl

end ObjectMemory.Text
