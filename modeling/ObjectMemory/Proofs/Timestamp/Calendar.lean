import ObjectMemory.Proofs.Timestamp.Grammar

/-!
# Moments on one scale

How long after another a moment is, told without a look at how dates are moved: the days up to a
date are those of the years before it, of the months before it in its year, and its day
(`Date.number`).  The next date has the next number, and the one before the number before it, and
no two dates have one number.  So
the moment of a local time that is some minutes ahead of UTC lies so many minutes before the same
time in UTC (`shift_isUtcOf`), whatever dates that leads to.  Seconds are left as they are, leap
seconds among them.

* `Date.number`, `Timestamp.minutes` — days and minutes from the start of year 1;
* `Date.number_next`, `Date.number_previous` — moving a date; `Date.number_injective`;
* `Timestamp.IsUtcOf`, **`Timestamp.isUtcOf_of_timeText`** — the moment of a local time;
* `Timestamp.IsUtcOf.unique` — there is one such moment.
-/

namespace ObjectMemory

/-! ## Days -/

/-- The days before a year, from the start of year 1. -/
def daysBeforeYear (year : ℤ) : ℤ :=
  365 * (year - 1) + (year - 1) / 4 - (year - 1) / 100 + (year - 1) / 400

/-- The days of a year before a month. -/
def daysBeforeMonth (year : ℤ) (month : ℕ) : ℕ := ∑ m ∈ Finset.Ico 1 month, daysIn year m

/-- The days up to a date, from the start of year 1. -/
def Date.number (date : Date) : ℤ :=
  daysBeforeYear date.year + daysBeforeMonth date.year date.month + date.day

lemma daysBeforeMonth_succ (year : ℤ) {month : ℕ} (h : 1 ≤ month) :
    daysBeforeMonth year (month + 1) = daysBeforeMonth year month + daysIn year month :=
  Finset.sum_Ico_succ_top h _

lemma daysBeforeMonth_january (year : ℤ) : daysBeforeMonth year 1 = 0 := rfl

lemma daysBeforeMonth_thirteen (year : ℤ) :
    daysBeforeMonth year 13 = daysBeforeMonth year 12 + daysIn year 12 :=
  daysBeforeMonth_succ year (by decide)

/-- The next year starts when the months of a year are over. -/
lemma daysBeforeYear_succ (year : ℤ) :
    daysBeforeYear (year + 1) = daysBeforeYear year + daysBeforeMonth year 13 := by
  have hlength : daysBeforeMonth year 13 = if isLeapYear year then 366 else 365 := by
    simp only [daysBeforeMonth, daysIn]
    split_ifs <;> rfl
  rw [hlength, daysBeforeYear, daysBeforeYear, isLeapYear]
  by_cases hfour : year % 4 = 0 <;> by_cases hcentury : year % 100 = 0 <;>
    by_cases hfourth : year % 400 = 0 <;> simp [hfour, hcentury, hfourth] <;> omega

/-- The next date has the next number. -/
lemma Date.number_next (date : Date) : date.next.number = date.number + 1 := by
  have hmonth := date.month_range
  have hday := date.day_range
  rw [next]
  split_ifs with hinside hbefore
  · simp only [number]
    omega
  · simp only [number, daysBeforeMonth_succ date.year hmonth.1]
    omega
  · have hdecember : date.month = 12 := by omega
    have hmonths := daysBeforeMonth_thirteen date.year
    have hyears := daysBeforeYear_succ date.year
    rw [hdecember] at hday hinside
    simp only [number, hdecember, daysBeforeMonth_january]
    omega

/-- The date before has the number before. -/
lemma Date.number_previous (date : Date) : date.previous.number = date.number - 1 := by
  have hmonth := date.month_range
  have hday := date.day_range
  rw [previous]
  split_ifs with hinside hafter
  · simp only [number]
    omega
  · obtain ⟨month, heq⟩ : ∃ month, date.month = month + 1 := ⟨date.month - 1, by omega⟩
    have hmonths := daysBeforeMonth_succ date.year (show 1 ≤ month by omega)
    simp only [number, heq, Nat.add_sub_cancel]
    omega
  · have hjanuary : date.month = 1 := by omega
    have hmonths := daysBeforeMonth_thirteen (date.year - 1)
    have hyears := daysBeforeYear_succ (date.year - 1)
    rw [sub_add_cancel] at hyears
    simp only [number, hjanuary, daysBeforeMonth_january]
    omega

/-- Months start one after the other. -/
lemma daysBeforeMonth_mono (year : ℤ) : Monotone (daysBeforeMonth year) := fun _ _ h =>
  Finset.sum_le_sum_of_subset (Finset.Ico_subset_Ico_right h)

/-- Years start one after the other. -/
lemma daysBeforeYear_mono : Monotone daysBeforeYear := by
  refine monotone_int_of_le_succ fun year => ?_
  rw [daysBeforeYear_succ]
  omega

/-- A date lies in its month. -/
lemma Date.number_month (date : Date) :
    daysBeforeYear date.year + daysBeforeMonth date.year date.month < date.number ∧
      date.number ≤ daysBeforeYear date.year + daysBeforeMonth date.year (date.month + 1) := by
  have hday := date.day_range
  rw [number, daysBeforeMonth_succ date.year date.month_range.1]
  omega

/-- A date lies in its year. -/
lemma Date.number_year (date : Date) :
    daysBeforeYear date.year < date.number ∧ date.number ≤ daysBeforeYear (date.year + 1) := by
  have hmonth := date.number_month
  have hlast : daysBeforeMonth date.year (date.month + 1) ≤ daysBeforeMonth date.year 13 :=
    daysBeforeMonth_mono _ (by have := date.month_range; omega)
  rw [daysBeforeYear_succ]
  omega

/-- No two dates have one number: their years are the same, and so are their months. -/
lemma Date.number_injective : Function.Injective Date.number := by
  intro a b h
  have hyear : a.year = b.year := by
    have ha := a.number_year
    have hb := b.number_year
    refine le_antisymm ?_ ?_ <;> by_contra hlt
    · have := daysBeforeYear_mono (show b.year + 1 ≤ a.year by omega)
      omega
    · have := daysBeforeYear_mono (show a.year + 1 ≤ b.year by omega)
      omega
  have hmonth : a.month = b.month := by
    have ha := a.number_month
    have hb := b.number_month
    rw [hyear] at ha
    refine le_antisymm ?_ ?_ <;> by_contra hlt
    · have := daysBeforeMonth_mono b.year (show b.month + 1 ≤ a.month by omega)
      omega
    · have := daysBeforeMonth_mono b.year (show a.month + 1 ≤ b.month by omega)
      omega
  have hday : a.day = b.day := by
    simp only [number, hyear, hmonth] at h
    omega
  cases a
  cases b
  simp_all only

/-! ## Minutes -/

namespace Timestamp

/-- The minutes up to a moment, from the start of the day before year 1. -/
def minutes (moment : Timestamp) : ℤ :=
  moment.date.number * 1440 + moment.hour * 60 + moment.minute

/-- A moment in UTC is that of a local time, which is so many minutes ahead. -/
structure IsUtcOf (moment localTime : Timestamp) (ahead : ℤ) : Prop where
  minutes : moment.minutes = localTime.minutes - ahead
  second : moment.second = localTime.second
  nanosecond : moment.nanosecond = localTime.nanosecond

lemma shift_isUtcOf (localTime : Timestamp) {ahead : ℤ} (h : -1440 < ahead ∧ ahead < 1440) :
    (localTime.shift ahead).IsUtcOf localTime ahead := by
  have hhour := localTime.hour_lt
  have hminute := localTime.minute_lt
  have hnext := localTime.date.number_next
  have hprevious := localTime.date.number_previous
  refine ⟨?_, rfl, rfl⟩
  simp only [minutes, shift, atMinute]
  split_ifs <;> omega

/-- A local time has one moment in UTC. -/
lemma IsUtcOf.unique {a b localTime : Timestamp} {ahead : ℤ} (ha : a.IsUtcOf localTime ahead)
    (hb : b.IsUtcOf localTime ahead) : a = b := by
  have hminutes : a.minutes = b.minutes := ha.minutes.trans hb.minutes.symm
  have hsecond : a.second = b.second := ha.second.trans hb.second.symm
  have hnanosecond : a.nanosecond = b.nanosecond := ha.nanosecond.trans hb.nanosecond.symm
  have := a.hour_lt
  have := a.minute_lt
  have := b.hour_lt
  have := b.minute_lt
  simp only [Timestamp.minutes] at hminutes
  have hdate : a.date = b.date := Date.number_injective (by omega)
  rw [hdate] at hminutes
  have hhour : a.hour = b.hour := by omega
  have hminute : a.minute = b.minute := by omega
  cases a
  cases b
  simp_all only

/-- **What is read of a text** is the moment in UTC of its local time. -/
theorem isUtcOf_of_timeText {text : String} {localTime moment : Timestamp} {ahead : ℤ}
    (htext : TimeText text.toList localTime ahead) (h : decode? text = some moment) :
    moment.IsUtcOf localTime ahead := by
  obtain rfl := Option.some.inj ((decode?_of_timeText htext).symm.trans h)
  exact localTime.shift_isUtcOf htext.lt_day

end Timestamp

end ObjectMemory
