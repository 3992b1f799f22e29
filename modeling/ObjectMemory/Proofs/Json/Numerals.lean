import ObjectMemory.Json.Numeral
import ObjectMemory.Json.Printer
import ObjectMemory.Proofs.Decimal.Shortest
import ObjectMemory.Proofs.Text.Digits

/-!
# Numbers are printed as numerals

Whatever a number is, its text is a numeral by the rules of the reader: whole digits without a
leading zero, and digits behind a point and behind the letter of an exponent, if these are there.  A
double has four ways to be written, and each has one of its own reasons to be well-formed.  So
a number is taken off a text again, digit by digit, whatever follows that is not more of a number
(`readNumeral_digits`).

* `Numeral.chars`, `Numeral.WellFormed` — how a numeral is written, and when it is one;
* `EndsNumber` — the text does not go on with more of a number;
* `readNumeral_digits` — a well-formed numeral is read back;
* `Number.numeral`, **`Number.numeral_wellFormed`**, `Number.chars_eq` — the numeral of a number.
-/

namespace ObjectMemory.Json

open Decimal Text

/-! ## Texts that go on otherwise -/

/-- The text does not go on with more of a number. -/
def EndsNumber (text : List Char) : Prop :=
  ∀ c ∈ text.head?, c.isDigit = false ∧ c ≠ '.' ∧ c ≠ 'e' ∧ c ≠ 'E'

lemma endsNumber_nil : EndsNumber [] := fun _ h => by simp at h

lemma endsNumber_cons {c : Char} (rest : List Char)
    (h : c.isDigit = false ∧ c ≠ '.' ∧ c ≠ 'e' ∧ c ≠ 'E') : EndsNumber (c :: rest) := by
  intro d hd
  rw [List.head?_cons, Option.mem_some_iff] at hd
  exact hd ▸ h

lemma EndsNumber.noDigit {text : List Char} (h : EndsNumber text) : NoDigit text :=
  fun c hc => (h c hc).1

/-! ## Numerals -/

/-- An exponent as it is written. -/
def WrittenExponent.chars (exponent : WrittenExponent) : List Char :=
  'e' :: (if exponent.negative then '-' else '+') :: exponent.digits

/-- The characters of a fraction, if there is one. -/
def fractionChars : Option (List Char) → List Char
  | some digits => '.' :: digits
  | none => []

/-- The characters of an exponent, if there is one. -/
def exponentChars : Option WrittenExponent → List Char
  | some exponent => exponent.chars
  | none => []

/-- The characters of a numeral behind its sign. -/
def Numeral.digits (numeral : Numeral) : List Char :=
  numeral.whole ++ (fractionChars numeral.fraction ++ exponentChars numeral.exponent)

def Numeral.chars (numeral : Numeral) : List Char :=
  if numeral.negative then '-' :: numeral.digits else numeral.digits

/-- Whole digits: a zero alone, or digits of which the first is another. -/
def IsWhole (digits : List Char) : Prop :=
  (∀ c ∈ digits, c.isDigit = true) ∧ (digits = ['0'] ∨ ∃ c rest, digits = c :: rest ∧ c ≠ '0')

/-- The parts of a numeral are digits, and none is missing. -/
structure Numeral.WellFormed (numeral : Numeral) : Prop where
  whole : IsWhole numeral.whole
  fraction : ∀ digits ∈ numeral.fraction, digits ≠ [] ∧ ∀ c ∈ digits, c.isDigit = true
  exponent : ∀ exponent ∈ numeral.exponent,
    exponent.digits ≠ [] ∧ ∀ c ∈ exponent.digits, c.isDigit = true

lemma isWhole_zero : IsWhole ['0'] := ⟨by simp, .inl rfl⟩

lemma isWhole_toDigits (n : ℕ) : IsWhole (Nat.toDigits 10 n) := by
  refine ⟨isDigit_toDigits n, ?_⟩
  rcases eq_or_ne n 0 with rfl | hn
  · exact .inl (Nat.toDigits_zero 10)
  · exact .inr (toDigits_eq_cons hn)

/-- A numeral starts with a digit. -/
lemma Numeral.WellFormed.digits_eq_cons {numeral : Numeral} (h : numeral.WellFormed) :
    ∃ c rest, numeral.digits = c :: rest ∧ c.isDigit = true := by
  obtain ⟨hdigits, hwhole⟩ := h.whole
  have hcons : ∃ c rest, numeral.whole = c :: rest := by
    rcases hwhole with heq | ⟨c, rest, heq, -⟩
    · exact ⟨_, _, heq⟩
    · exact ⟨c, rest, heq⟩
  obtain ⟨c, rest, heq⟩ := hcons
  rw [Numeral.digits, heq, List.cons_append]
  exact ⟨c, _, rfl, hdigits c (heq ▸ List.mem_cons_self)⟩

/-! ## Reading -/

variable {rest : List Char}

lemma readWhole_append {digits : List Char} (h : IsWhole digits) (hrest : NoDigit rest) :
    readWhole (digits ++ rest) = .ok (digits, rest) := by
  obtain ⟨hdigits, rfl | ⟨c, tail, rfl, hc⟩⟩ := h
  · cases rest with
    | nil => rfl
    | cons d rest =>
        have hd : d.isDigit = false := hrest d rfl
        simp [readWhole, hd]
  · have htail : ∀ d ∈ tail, d.isDigit = true :=
      fun d hd => hdigits d (List.mem_cons_of_mem _ hd)
    rw [List.cons_append, readWhole, if_pos (hdigits c List.mem_cons_self),
      takeWhile_digits htail hrest, dropWhile_digits htail hrest]
    exact hc

lemma readFraction_append {fraction : Option (List Char)}
    (h : ∀ digits ∈ fraction, digits ≠ [] ∧ ∀ c ∈ digits, c.isDigit = true)
    (hrest : NoDigit rest) (hpoint : '.' ∉ rest.head?) :
    readFraction (fractionChars fraction ++ rest) = .ok (fraction, rest) := by
  cases fraction with
  | none =>
      cases rest with
      | nil => rfl
      | cons c rest =>
          rw [fractionChars, List.nil_append, readFraction]
          rintro _ ⟨⟩
          exact hpoint rfl
  | some digits =>
      obtain ⟨hne, hdigits⟩ := h digits rfl
      rw [fractionChars, List.cons_append, readFraction, takeWhile_digits hdigits hrest,
        dropWhile_digits hdigits hrest]
      split
      · exact absurd rfl hne
      · rfl

lemma readExponent_append {exponent : Option WrittenExponent}
    (h : ∀ written ∈ exponent, written.digits ≠ [] ∧ ∀ c ∈ written.digits, c.isDigit = true)
    (hrest : EndsNumber rest) :
    readExponent (exponentChars exponent ++ rest) = .ok (exponent, rest) := by
  cases exponent with
  | none =>
      cases rest with
      | nil => rfl
      | cons c rest =>
          have hc := (hrest c rfl).2.2
          simp only [exponentChars, List.nil_append, readExponent, hc.1, hc.2, or_self, if_false]
  | some written =>
      obtain ⟨hne, hdigits⟩ := h written rfl
      have hsign : readSign ((if written.negative then '-' else '+') :: (written.digits ++ rest))
          = (written.negative, written.digits ++ rest) := by
        cases written.negative <;> rfl
      simp only [exponentChars, WrittenExponent.chars, List.cons_append, readExponent, true_or,
        if_true, hsign, takeWhile_digits hdigits hrest.noDigit,
        dropWhile_digits hdigits hrest.noDigit]

lemma exponentChars_head {exponent : Option WrittenExponent} (hrest : EndsNumber rest) :
    ∀ c ∈ (exponentChars exponent ++ rest).head?, c.isDigit = false ∧ c ≠ '.' := by
  cases exponent with
  | none => exact fun c hc => ⟨(hrest c hc).1, (hrest c hc).2.1⟩
  | some written =>
      rintro c hc
      obtain rfl : 'e' = c := Option.some.inj hc
      decide

lemma fractionChars_head {fraction : Option (List Char)} (hrest : NoDigit rest) :
    NoDigit (fractionChars fraction ++ rest) := by
  cases fraction with
  | none => exact hrest
  | some digits => exact noDigit_cons _ rfl

/-- **A well-formed numeral is read back**, with any text behind it that is no more of a number. -/
lemma readNumeral_digits {numeral : Numeral} (h : numeral.WellFormed) (hrest : EndsNumber rest) :
    readNumeral numeral.negative (numeral.digits ++ rest) = .ok (numeral, rest) := by
  have hhead : ∀ c ∈ (exponentChars numeral.exponent ++ rest).head?, _ := exponentChars_head hrest
  have hexponent : NoDigit (exponentChars numeral.exponent ++ rest) := fun c hc => (hhead c hc).1
  have hpoint : '.' ∉ (exponentChars numeral.exponent ++ rest).head? :=
    fun hc => (hhead _ hc).2 rfl
  rw [Numeral.digits, List.append_assoc, List.append_assoc]
  simp only [readNumeral, readWhole_append h.whole (fractionChars_head hexponent),
    readFraction_append h.fraction hexponent hpoint, readExponent_append h.exponent hrest, bind,
    Except.bind]
  rfl

/-! ## The numeral of a number -/

/-- The numeral that a double is printed as: in place, with the digits before and behind the point,
or as digits and an exponent. -/
def floatNumeral (x : Binary64) : Numeral :=
  let decimal := x.shortest
  let digits := Nat.toDigits 10 decimal.digits
  let places : ℤ := digits.length - 1
  let first := decimal.unit + places
  if numberLayout.least ≤ first ∧ first ≤ numberLayout.greatest then
    if 0 ≤ decimal.unit then
      ⟨x.negative, digits ++ List.replicate decimal.unit.toNat '0', some ['0'], none⟩
    else if 0 ≤ first then
      ⟨x.negative, digits.take (first.toNat + 1), some (digits.drop (first.toNat + 1)), none⟩
    else ⟨x.negative, ['0'], some (List.replicate (-first - 1).toNat '0' ++ digits), none⟩
  else
    ⟨x.negative, digits.take 1,
      if (digits.drop 1).isEmpty then none else some (digits.drop 1),
      some ⟨first < 0, Nat.toDigits 10 first.natAbs⟩⟩

/-- The numeral that a number is printed as. -/
def Number.numeral : Number → Numeral
  | .integer n _ => ⟨n < 0, Nat.toDigits 10 n.natAbs, none, none⟩
  | .float x => floatNumeral x

lemma floatNumeral_digits (x : Binary64) :
    (floatNumeral x).digits = (numberLayout.write x.shortest).toList := by
  rw [floatNumeral, Layout.write]
  dsimp only
  split_ifs <;>
    simp_all [Numeral.digits, fractionChars, exponentChars, WrittenExponent.chars]

lemma floatNumeral_negative (x : Binary64) : (floatNumeral x).negative = x.negative := by
  rw [floatNumeral]
  split_ifs <;> rfl

/-- A number is printed as its numeral. -/
lemma Number.chars_eq (n : Number) : n.chars = n.numeral.chars := by
  cases n with
  | integer n inRange =>
      simp [Number.chars, integerChars, numeral, Numeral.chars, Numeral.digits, fractionChars,
        exponentChars]
  | float x =>
      rw [Number.chars, floatChars, numeral, Numeral.chars, floatNumeral_negative,
        floatNumeral_digits]

/-- Only a plain zero has no other digit in front. -/
lemma shortest_digits_cons {x : Binary64} (h : x.shortest.unit ≠ 0) :
    ∃ c rest, Nat.toDigits 10 x.shortest.digits = c :: rest ∧ c ≠ '0' := by
  rcases x.shortest_spec with hzero | ⟨hne, -⟩
  · rw [hzero] at h
    exact absurd rfl h
  · exact toDigits_eq_cons hne

lemma isWhole_zeros {digits : List Char} (h : IsWhole digits) {zeros : ℕ}
    (hzeros : zeros ≠ 0 → ∃ c rest, digits = c :: rest ∧ c ≠ '0') :
    IsWhole (digits ++ List.replicate zeros '0') := by
  rcases eq_or_ne zeros 0 with rfl | hne
  · rwa [List.replicate_zero, List.append_nil]
  · obtain ⟨c, rest, rfl, hc⟩ := hzeros hne
    refine ⟨fun d hd => ?_, .inr ⟨c, _, rfl, hc⟩⟩
    rcases List.mem_append.mp hd with hd | hd
    · exact h.1 d hd
    · rw [List.eq_of_mem_replicate hd]
      rfl

lemma isWhole_take {digits : List Char} (hdigits : ∀ c ∈ digits, c.isDigit = true)
    (hhead : ∃ c rest, digits = c :: rest ∧ c ≠ '0') (n : ℕ) : IsWhole (digits.take (n + 1)) := by
  obtain ⟨c, rest, rfl, hc⟩ := hhead
  exact ⟨fun d hd => hdigits d (List.mem_of_mem_take hd), .inr ⟨c, rest.take n, rfl, hc⟩⟩

lemma wellFormed_of_fraction {negative : Bool} {whole digits : List Char} (hwhole : IsWhole whole)
    (hne : digits ≠ []) (hdigits : ∀ c ∈ digits, c.isDigit = true) :
    Numeral.WellFormed ⟨negative, whole, some digits, none⟩ := by
  refine ⟨hwhole, ?_, nofun⟩
  rintro _ ⟨⟩
  exact ⟨hne, hdigits⟩

lemma wellFormed_of_exponent {negative down : Bool} {whole fraction : List Char} {power : ℕ}
    (hwhole : IsWhole whole) (hfraction : ∀ c ∈ fraction, c.isDigit = true) :
    Numeral.WellFormed ⟨negative, whole, if fraction.isEmpty then none else some fraction,
      some ⟨down, Nat.toDigits 10 power⟩⟩ := by
  refine ⟨hwhole, fun digits hmem => ?_, ?_⟩
  · dsimp only at hmem
    split_ifs at hmem with hempty
    · cases hmem
    · obtain rfl := Option.mem_some_iff.mp hmem
      exact ⟨by simpa using hempty, hfraction⟩
  · rintro _ ⟨⟩
    exact ⟨Nat.toDigits_ne_nil, isDigit_toDigits _⟩

/-- **A double is printed as a well-formed numeral.** -/
lemma floatNumeral_wellFormed (x : Binary64) : (floatNumeral x).WellFormed := by
  have hdigits := isDigit_toDigits x.shortest.digits
  have hwhole := isWhole_toDigits x.shortest.digits
  have hcons : x.shortest.unit ≠ 0 → _ := shortest_digits_cons
  have hne : Nat.toDigits 10 x.shortest.digits ≠ [] := Nat.toDigits_ne_nil
  rw [floatNumeral]
  generalize Nat.toDigits 10 x.shortest.digits = digits at *
  generalize x.shortest.unit = unit at *
  have hlength := List.length_pos_iff.mpr hne
  split
  · next hplace =>
      split_ifs with hunit hfirst
      · exact wellFormed_of_fraction (isWhole_zeros hwhole fun hzeros => hcons (by omega))
          (by simp) isWhole_zero.1
      · refine wellFormed_of_fraction (isWhole_take hdigits (hcons (by omega)) _)
          (fun hnil => ?_) fun c hc => hdigits c (List.mem_of_mem_drop hc)
        have := List.drop_eq_nil_iff.mp hnil
        omega
      · refine wellFormed_of_fraction isWhole_zero (fun hnil => ?_) fun c hc => ?_
        · exact hne (List.append_eq_nil_iff.mp hnil).2
        · rcases List.mem_append.mp hc with hc | hc
          · rw [List.eq_of_mem_replicate hc]
            rfl
          · exact hdigits c hc
  · refine wellFormed_of_exponent ?_ fun c hc => hdigits c (List.mem_of_mem_drop hc)
    obtain ⟨-, hzero | hhead⟩ := hwhole
    · rw [hzero]
      exact isWhole_zero
    · exact isWhole_take hdigits hhead 0

/-- **A number is printed as a well-formed numeral.** -/
theorem Number.numeral_wellFormed (n : Number) : n.numeral.WellFormed := by
  cases n with
  | integer n inRange => exact ⟨isWhole_toDigits _, nofun, nofun⟩
  | float x => exact floatNumeral_wellFormed x

end ObjectMemory.Json
