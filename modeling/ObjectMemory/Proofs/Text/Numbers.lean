import ObjectMemory.Proofs.Text.Bytes
import ObjectMemory.Proofs.Text.Digits

/-!
# Numbers between blanks

A number that someone has typed may stand between blanks, have a plus sign, and start with as many
zeros as one likes.  `Spells` is the texts of a number without the blanks.  Neither a digit nor a
sign is a blank, so the blanks are exactly what is cut off before the number is read: reading what
is left (`readUnsigned_eq_some_iff`) is finding the number between blanks.

* `DigitsOf`, `Spells`, `SpellsBetweenBlanks` — the texts of a number;
* `readNatural_eq_some_iff`, `readUnsigned_eq_some_iff` — what is read without blanks;
* **`readUnsigned_trim_eq_some_iff`** — what is read between them.
-/

namespace ObjectMemory.Text

/-! ## The texts of a number -/

/-- Decimal digits, at least one of them, and the number that they are.  There may be leading
zeros. -/
structure DigitsOf (n : ℕ) (digits : List Char) : Prop where
  nonempty : digits ≠ []
  isDigit : ∀ c ∈ digits, c.isDigit = true
  value : ofDigits digits = n

/-- A number as digits, with a plus sign or without. -/
inductive Spells (n : ℕ) : List Char → Prop where
  | unsigned {digits : List Char} : DigitsOf n digits → Spells n digits
  | plus {digits : List Char} : DigitsOf n digits → Spells n ('+' :: digits)

/-- A number with nothing around it but blanks. -/
def SpellsBetweenBlanks (n : ℕ) (text : List Char) : Prop :=
  ∃ before inner after, text = before ++ (inner ++ after) ∧
    (∀ c ∈ before, isBlank c = true) ∧ (∀ c ∈ after, isBlank c = true) ∧ Spells n inner

variable {n bound : ℕ} {cs : List Char}

lemma isBlank_of_isDigit {c : Char} (h : c.isDigit = true) : isBlank c = false := by
  have hcode : 48 ≤ c.toNat ∧ c.toNat ≤ 57 := by
    simp only [Char.isDigit, Bool.and_eq_true, decide_eq_true_eq, UInt32.le_iff_toNat_le] at h
    exact h
  simp only [isBlank, Bool.or_eq_false_iff, decide_eq_false_iff_not,
    Bool.and_eq_false_iff]
  omega

/-- Digits have no sign in front. -/
lemma DigitsOf.ne_cons (h : DigitsOf n cs) {sign : Char} (hsign : sign.isDigit = false)
    (rest : List Char) : cs ≠ sign :: rest := by
  rintro rfl
  have hdigit := h.isDigit sign List.mem_cons_self
  rw [hsign] at hdigit
  cases hdigit

lemma digitsOf_toDigits (n : ℕ) : DigitsOf n (Nat.toDigits 10 n) :=
  ⟨by simp, isDigit_toDigits n, ofDigits_toDigits n⟩

lemma Spells.isBlank_eq_false (h : Spells n cs) : ∀ c ∈ cs, isBlank c = false := by
  cases h with
  | unsigned hdigits => exact fun c hc => isBlank_of_isDigit (hdigits.isDigit c hc)
  | plus hdigits =>
      intro c hc
      rcases List.mem_cons.mp hc with rfl | hc
      · rfl
      · exact isBlank_of_isDigit (hdigits.isDigit c hc)

/-! ## Reading -/

lemma readNatural_eq_some_iff : readNatural cs = some n ↔ DigitsOf n cs := by
  rw [readNatural, Option.ite_none_right_eq_some, Option.some.injEq, Bool.and_eq_true,
    List.all_eq_true]
  constructor
  · rintro ⟨⟨hnonempty, hdigits⟩, hvalue⟩
    exact ⟨by simpa using hnonempty, hdigits, hvalue⟩
  · rintro ⟨hnonempty, hdigits, hvalue⟩
    exact ⟨⟨by simpa using hnonempty, hdigits⟩, hvalue⟩

/-- A number below the bound is read from its texts, and from no others. -/
lemma readUnsigned_eq_some_iff : readUnsigned bound cs = some n ↔ Spells n cs ∧ n < bound := by
  simp only [readUnsigned.eq_def, Option.filter_eq_some_iff, readNatural_eq_some_iff,
    decide_eq_true_eq, and_congr_left_iff]
  intro _
  -- digits do not start with a plus sign, so the sign is taken off exactly where there is one
  split
  · next rest =>
      refine ⟨.plus, fun h => ?_⟩
      cases h with
      | unsigned hdigits => exact absurd rfl (hdigits.ne_cons rfl rest)
      | plus hdigits => exact hdigits
  · next hsign =>
      refine ⟨.unsigned, fun h => ?_⟩
      cases h with
      | unsigned hdigits => exact hdigits
      | plus hdigits => exact absurd rfl (hsign _)

/-- **A number is read of a text without the blanks around it exactly if the text has it between
blanks**, and it is below the bound. -/
theorem readUnsigned_trim_eq_some_iff {text : String} :
    readUnsigned bound (trim text).toList = some n ↔
      SpellsBetweenBlanks n text.toList ∧ n < bound := by
  rw [readUnsigned_eq_some_iff, and_congr_left_iff]
  intro _
  constructor
  · intro h
    obtain ⟨before, after, htext, hbefore, hafter⟩ := exists_blanks_around_trim text
    exact ⟨before, _, after, htext, hbefore, hafter, h⟩
  · rintro ⟨before, inner, after, htext, hbefore, hafter, h⟩
    have hinner := h.isBlank_eq_false
    have htrim : trim text = .ofList inner := by
      rw [← String.ofList_toList (s := text), htext]
      exact trim_surrounded hbefore hafter (fun c hc => hinner c (List.mem_of_mem_head? hc))
        (fun c hc => hinner c (List.mem_of_mem_getLast? hc))
    rw [htrim, String.toList_ofList]
    exact h

end ObjectMemory.Text
