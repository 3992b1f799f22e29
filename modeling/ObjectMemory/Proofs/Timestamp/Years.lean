import ObjectMemory.Proofs.Timestamp.Grammar

/-!
# Years at the edges

A text has four digits for its year, but an offset can lead out of them: the first minutes of year 0
east of Greenwich lie in the year before in UTC, and the last minutes of year 9999 west of it in the
year after.  An offset is less than a day, so the only days beyond are the last one of year -1 and
the first one of year 10000 (`decode?_date`).  Their years are written with a sign, and a text that
starts with one is not read (`decode?_encode_eq_none`).

* `Date.next_cases`, `Date.previous_cases`, `Timestamp.shift_date` — what an offset does to a date;
* `Timestamp.FourDigitYear` — the moments that are read back;
* **`Timestamp.decode?_encode_iff`** — and no others are;
* **`Timestamp.decode?_date`** — the moments that are read.
-/

namespace ObjectMemory

open Text

/-! ## Neighbouring days -/

lemma daysIn_december (year : ℤ) : daysIn year 12 = 31 := rfl

/-- The next day is one of the same year, or the first day of the next. -/
lemma Date.next_cases (date : Date) :
    date.next.year = date.year ∨
      date.next.year = date.year + 1 ∧ date.next.month = 1 ∧ date.next.day = 1 := by
  rw [next]
  split_ifs
  · exact .inl rfl
  · exact .inl rfl
  · exact .inr ⟨rfl, rfl, rfl⟩

/-- The day before is one of the same year, or the last day of the year before. -/
lemma Date.previous_cases (date : Date) :
    date.previous.year = date.year ∨
      date.previous.year = date.year - 1 ∧ date.previous.month = 12 ∧ date.previous.day = 31 := by
  rw [previous]
  split_ifs
  · exact .inl rfl
  · exact .inl rfl
  · exact .inr ⟨rfl, rfl, daysIn_december (date.year - 1)⟩

namespace Timestamp

/-- An offset moves a moment by a day at most. -/
lemma shift_date (moment : Timestamp) (ahead : ℤ) :
    (moment.shift ahead).date = moment.date ∨ (moment.shift ahead).date = moment.date.previous ∨
      (moment.shift ahead).date = moment.date.next := by
  rw [shift, atMinute]
  dsimp only
  split_ifs
  · exact .inr (.inl rfl)
  · exact .inl rfl
  · exact .inr (.inr rfl)

/-! ## What is read back -/

/-- The year of a moment is written with four digits and no sign. -/
def FourDigitYear (moment : Timestamp) : Prop :=
  0 ≤ moment.date.year ∧ moment.date.year ≤ 9999

instance (moment : Timestamp) : Decidable moment.FourDigitYear :=
  inferInstanceAs (Decidable (_ ∧ _))

lemma epoch_fourDigitYear : epoch.FourDigitYear := by decide

/-- A sign is no digit. -/
lemma takeDigits_sign {c : Char} (h : c.isDigit = false) (width : ℕ) (text : List Char) :
    takeDigits (width + 1) (c :: text) = none := by
  rw [takeDigits, List.take_succ_cons]
  simp only [List.all_cons, h, Bool.false_and, Bool.false_eq_true, and_false, if_false]

/-- A moment of any other year is written as no text of a moment. -/
lemma decode?_encode_eq_none {moment : Timestamp} (h : ¬ moment.FourDigitYear) :
    decode? moment.encode = none := by
  have hsign : ∃ c digits, c.isDigit = false ∧ yearChars moment.date.year = c :: digits := by
    rw [yearChars]
    split_ifs with hlow hhigh
    · exact ⟨'-', _, rfl, rfl⟩
    · exact absurd ⟨not_lt.mp hlow, hhigh⟩ h
    · exact ⟨'+', _, rfl, rfl⟩
  obtain ⟨c, digits, hc, hyear⟩ := hsign
  simp only [decode?, encode, String.toList_ofList, chars, hyear, List.cons_append,
    takeDigits_sign hc, bind, Option.bind]

/-- **A moment is read back from its text exactly if its year has four digits.** -/
theorem decode?_encode_iff {moment : Timestamp} :
    decode? moment.encode = some moment ↔ moment.FourDigitYear := by
  refine ⟨fun h => by_contra fun hyear => ?_, decode?_encode⟩
  rw [decode?_encode_eq_none hyear] at h
  cases h

/-! ## What is read -/

/-- What is read is the local time of a date with a year of four digits, at some offset. -/
lemma decode?_eq_some {text : String} {moment : Timestamp} (h : decode? text = some moment) :
    ∃ (localTime : Timestamp) (ahead : ℤ), localTime.FourDigitYear ∧
      moment = localTime.shift ahead := by
  obtain ⟨localTime, ahead, htext, rfl⟩ := timeText_of_decode? h
  exact ⟨localTime, ahead, htext.year_range, rfl⟩

/-- **The moments that are read** have a year of four digits, or they lie on one of the two days
next to them. -/
theorem decode?_date {text : String} {moment : Timestamp} (h : decode? text = some moment) :
    moment.FourDigitYear ∨
      moment.date.year = -1 ∧ moment.date.month = 12 ∧ moment.date.day = 31 ∨
      moment.date.year = 10000 ∧ moment.date.month = 1 ∧ moment.date.day = 1 := by
  obtain ⟨localTime, ahead, ⟨hlow, hhigh⟩, rfl⟩ := decode?_eq_some h
  rw [FourDigitYear]
  rcases localTime.shift_date ahead with hdate | hdate | hdate
  · rw [hdate]
    omega
  · rw [hdate]
    have hprevious := localTime.date.previous_cases
    omega
  · rw [hdate]
    have hnext := localTime.date.next_cases
    omega

end Timestamp

end ObjectMemory
