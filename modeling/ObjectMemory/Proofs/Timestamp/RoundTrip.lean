import ObjectMemory.Proofs.Text.Digits
import ObjectMemory.Timestamp.Rfc3339

/-!
# Written moments read back

The text of a moment has fields of fixed width, padded with zeros, and a field is read by its width,
so each is read back with any text behind it (`takeDigits_padded`).  Only the part of a second has a
width of its own, the least that is exact, and a reader puts the missing zeros behind it
(`takeNanoseconds_chars`).

A year has a field of four digits, so the moments that read back are those from year 0 to year 9999
(`decode?_encode`).  A leap second is read back as one.
-/

namespace ObjectMemory

open Text

/-! ## Fields of fixed width -/

lemma length_padded {width n : ℕ} (hw : 0 < width) (hn : n < 10 ^ width) :
    (padded width n).length = width := by
  have hlen := (Nat.length_toDigits_le_iff (by decide) hw).mpr hn
  simp only [padded, List.length_append, List.length_replicate]
  omega

lemma isDigit_padded (width n : ℕ) : ∀ c ∈ padded width n, c.isDigit = true := by
  intro c hc
  rcases List.mem_append.mp hc with hc | hc
  · rw [List.eq_of_mem_replicate hc]
    rfl
  · exact isDigit_toDigits n c hc

/-- Zeros in front do not count. -/
lemma ofDigits_padded (width n : ℕ) : ofDigits (padded width n) = n := by
  rw [ofDigits, padded, Nat.ofDigitChars_append, Nat.ofDigitChars_replicate_zero, Nat.mul_zero]
  exact ofDigits_toDigits n

/-- A padded field is read by its width. -/
lemma takeDigits_padded {width n : ℕ} (hw : 0 < width) (hn : n < 10 ^ width) (rest : List Char) :
    takeDigits width (padded width n ++ rest) = some (n, rest) := by
  have hlen := length_padded hw hn
  have htake : (padded width n ++ rest).take width = padded width n := by
    rw [List.take_append_of_le_length hlen.ge, List.take_of_length_le hlen.le]
  have hdrop : (padded width n ++ rest).drop width = rest := by
    rw [List.drop_append_of_le_length hlen.ge, List.drop_of_length_le hlen.le, List.nil_append]
  have hall : (padded width n).all Char.isDigit = true :=
    List.all_eq_true.mpr (isDigit_padded width n)
  simp only [takeDigits, htake, hdrop, hlen, hall, and_self, if_true, ofDigits_padded]

/-! ## Parts of a second -/

/-- Digits behind a point are read as if zeros filled them up to nine. -/
lemma takeNanoseconds_padded {width n : ℕ} (hw : 0 < width) (hle : width ≤ 9)
    (hn : n < 10 ^ width) {rest : List Char} (hrest : NoDigit rest) :
    takeNanoseconds ('.' :: (padded width n ++ rest)) = some (n * 10 ^ (9 - width), rest) := by
  have hlen := length_padded hw hn
  have hne : (padded width n).isEmpty = false := by
    rw [List.isEmpty_eq_false_iff, ← List.length_pos_iff, hlen]
    exact hw
  have hnine : (padded width n).take 9 = padded width n :=
    List.take_of_length_le (hlen.trans_le hle)
  have hvalue : ofDigits ((padded width n).rightpad 9 '0') = n * 10 ^ (9 - width) := by
    rw [List.rightpad, hlen, ofDigits, Nat.ofDigitChars_append, Nat.ofDigitChars_replicate_zero]
    rw [show Nat.ofDigitChars 10 (padded width n) 0 = n from ofDigits_padded width n, Nat.mul_comm]
  simp only [takeNanoseconds, takeWhile_digits (isDigit_padded width n) hrest,
    dropWhile_digits (isDigit_padded width n) hrest, hnine, hne, hvalue, Bool.false_eq_true,
    if_false]

/-- The part of a second is read back, whatever width it is written in. -/
lemma takeNanoseconds_chars {n : ℕ} (hn : n < 1000000000) {rest : List Char}
    (hdot : rest.head? ≠ some '.') (hrest : NoDigit rest) :
    takeNanoseconds (nanosecondChars n ++ rest) = some (n, rest) := by
  unfold nanosecondChars
  split_ifs with hzero hmilli hmicro
  · subst hzero
    rw [List.nil_append, takeNanoseconds]
    rintro digits rfl
    exact hdot rfl
  · rw [List.cons_append, takeNanoseconds_padded (by decide) (by decide) (by omega) hrest]
    have : n / 1000000 * 10 ^ (9 - 3) = n := by omega
    rw [this]
  · rw [List.cons_append, takeNanoseconds_padded (by decide) (by decide) (by omega) hrest]
    have : n / 1000 * 10 ^ (9 - 6) = n := by omega
    rw [this]
  · rw [List.cons_append, takeNanoseconds_padded (by decide) (by decide) (by omega) hrest,
      Nat.sub_self, Nat.pow_zero, Nat.mul_one]

/-! ## Moments -/

lemma daysIn_le (year : ℤ) (month : ℕ) : daysIn year month ≤ 31 := by
  unfold daysIn
  split_ifs <;> decide

lemma Date.of?_fields (date : Date) : Date.of? date.year date.month date.day = some date := by
  rw [Date.of?, dif_pos ⟨date.month_range, date.day_range⟩]

namespace Timestamp

lemma of?_fields (moment : Timestamp) :
    of? moment.date moment.hour moment.minute moment.second moment.nanosecond = some moment := by
  rw [of?, dif_pos ⟨moment.hour_lt, moment.minute_lt, moment.second_le, moment.nanosecond_lt⟩]

/-- A local time that is not ahead of UTC is UTC. -/
lemma shift_zero (moment : Timestamp) : moment.shift 0 = moment := by
  obtain ⟨date, hour, minute, second, nanosecond, hhour, hminute, hsecond, hnano⟩ := moment
  have hlow : ¬((hour * 60 + minute : ℕ) : ℤ) - 0 < 0 := by omega
  have hhigh : ((hour * 60 + minute : ℕ) : ℤ) - 0 < 1440 := by omega
  have hday : (((hour * 60 + minute : ℕ) : ℤ) - 0) % 1440 = (hour * 60 + minute : ℕ) := by omega
  have hh : (hour * 60 + minute) / 60 = hour := by omega
  have hm : (hour * 60 + minute) % 60 = minute := by omega
  simp only [shift, atMinute, hlow, hhigh, hday, if_false, if_true, Int.toNat_natCast, hh, hm]

/-- **The text of a moment from year 0 to year 9999 is read as that moment.** -/
theorem decode?_encode {moment : Timestamp}
    (h : 0 ≤ moment.date.year ∧ moment.date.year ≤ 9999) :
    decode? moment.encode = some moment := by
  obtain ⟨hlow, hhigh⟩ := h
  have hyear : yearChars moment.date.year = padded 4 moment.date.year.toNat := by
    rw [yearChars, if_neg (by omega), if_pos hhigh]
  have hmonth := moment.date.month_range
  have hday := moment.date.day_range
  have hdays := daysIn_le moment.date.year moment.date.month
  have hhour := moment.hour_lt
  have hminute := moment.minute_lt
  have hsecond := moment.second_le
  have hnano : takeNanoseconds (nanosecondChars moment.nanosecond ++ ['+', '0', '0', ':', '0', '0'])
      = some (moment.nanosecond, ['+', '0', '0', ':', '0', '0']) :=
    takeNanoseconds_chars moment.nanosecond_lt (by decide) (noDigit_cons _ rfl)
  have hoffset : readOffset ['+', '0', '0', ':', '0', '0'] = some 0 := by rfl
  have hcast : ((moment.date.year.toNat : ℕ) : ℤ) = moment.date.year := Int.toNat_of_nonneg hlow
  simp only [decode?, encode, String.toList_ofList, chars, hyear, List.cons_append,
    List.append_assoc, bind, Option.bind]
  simp only [takeDigits_padded (show 0 < 4 by decide) (show moment.date.year.toNat < 10 ^ 4 by omega),
    takeDigits_padded (show 0 < 2 by decide) (show moment.date.month < 10 ^ 2 by omega),
    takeDigits_padded (show 0 < 2 by decide) (show moment.date.day < 10 ^ 2 by omega),
    takeDigits_padded (show 0 < 2 by decide) (show moment.hour < 10 ^ 2 by omega),
    takeDigits_padded (show 0 < 2 by decide) (show moment.minute < 10 ^ 2 by omega),
    takeDigits_padded (show 0 < 2 by decide) (show moment.second < 10 ^ 2 by omega),
    takeOne, List.mem_cons, true_or, if_true, hnano, hoffset, hcast, Date.of?_fields, of?_fields,
    shift_zero]
  rfl

end Timestamp

end ObjectMemory
