/-!
# Moments

A moment in UTC as its calendar date and time of day, to the nanosecond.  The fields are kept as
they are read and written, and their ranges are part of the types, so a moment is always a date that
exists.  The second of a minute may be 60: a leap second stays one.

Days are moved one at a time (`Date.next`, `Date.previous`), which is all that an offset of less
than a day between a local time and UTC asks for.  Years run on past 9999 and below zero.

* `Date`, `Timestamp` — the types; `Date.of?`, `Timestamp.of?` — from fields that may be out of
  range;
* `Timestamp.shift` — a moment whose local time is so many minutes ahead of UTC;
* `Timestamp.epoch` — the start of 1970.
-/

namespace ObjectMemory

/-! ## Dates -/

/-- Whether a year has a day more than 365. -/
def isLeapYear (year : Int) : Bool := year % 4 = 0 && (year % 100 ≠ 0 || year % 400 = 0)

def daysIn (year : Int) (month : Nat) : Nat :=
  if month = 2 then if isLeapYear year then 29 else 28
  else if month = 4 ∨ month = 6 ∨ month = 9 ∨ month = 11 then 30
  else 31

/-- A day of the Gregorian calendar, extended to all years. -/
structure Date where
  year : Int
  month : Nat
  day : Nat
  month_range : 1 ≤ month ∧ month ≤ 12
  day_range : 1 ≤ day ∧ day ≤ daysIn year month
  deriving DecidableEq, Repr

theorem one_le_daysIn (year : Int) (month : Nat) : 1 ≤ daysIn year month := by
  unfold daysIn
  repeat' split
  all_goals decide

namespace Date

/-- The date of three numbers, if there is one. -/
def of? (year : Int) (month day : Nat) : Option Date :=
  if h : (1 ≤ month ∧ month ≤ 12) ∧ 1 ≤ day ∧ day ≤ daysIn year month then
    some ⟨year, month, day, h.1, h.2⟩
  else none

def next (date : Date) : Date :=
  if h : date.day < daysIn date.year date.month then
    ⟨date.year, date.month, date.day + 1, date.month_range, by omega⟩
  else if hm : date.month < 12 then
    ⟨date.year, date.month + 1, 1, by omega, Nat.le_refl 1, one_le_daysIn ..⟩
  else ⟨date.year + 1, 1, 1, by decide, Nat.le_refl 1, one_le_daysIn ..⟩

def previous (date : Date) : Date :=
  if h : 1 < date.day then
    have range := date.day_range
    ⟨date.year, date.month, date.day - 1, date.month_range, by omega⟩
  else if hm : 1 < date.month then
    have range := date.month_range
    ⟨date.year, date.month - 1, daysIn date.year (date.month - 1), by omega,
      one_le_daysIn .., Nat.le_refl _⟩
  else
    ⟨date.year - 1, 12, daysIn (date.year - 1) 12, by decide, one_le_daysIn .., Nat.le_refl _⟩

end Date

/-! ## Moments -/

/-- A moment in UTC. -/
structure Timestamp where
  date : Date
  hour : Nat
  minute : Nat
  /-- The second of the minute; 60 is a leap second. -/
  second : Nat
  nanosecond : Nat
  hour_lt : hour < 24
  minute_lt : minute < 60
  second_le : second ≤ 60
  nanosecond_lt : nanosecond < 1000000000
  deriving DecidableEq, Repr

namespace Timestamp

/-- The moment of a date and a time of day, if there is such a time. -/
def of? (date : Date) (hour minute second nanosecond : Nat) : Option Timestamp :=
  if h : hour < 24 ∧ minute < 60 ∧ second ≤ 60 ∧ nanosecond < 1000000000 then
    some ⟨date, hour, minute, second, nanosecond, h.1, h.2.1, h.2.2.1, h.2.2.2⟩
  else none

def epoch : Timestamp :=
  ⟨⟨1970, 1, 1, by decide, by decide⟩, 0, 0, 0, 0, by decide, by decide, by decide, by decide⟩

instance : Inhabited Timestamp := ⟨epoch⟩

/-- The moment with the minutes of its day replaced.  Minutes of the day before are negative, those
of the day after are past the end of the day. -/
def atMinute (moment : Timestamp) (minutes : Int) : Timestamp :=
  let date :=
    if minutes < 0 then moment.date.previous
    else if minutes < 1440 then moment.date
    else moment.date.next
  let inDay := (minutes % 1440).toNat
  have h : inDay < 1440 := by omega
  { moment with
    date
    hour := inDay / 60
    minute := inDay % 60
    hour_lt := by omega
    minute_lt := by omega }

/-- The moment in UTC of a local time that is `ahead` minutes ahead of UTC, by less than a day. -/
def shift (localTime : Timestamp) (ahead : Int) : Timestamp :=
  localTime.atMinute ((localTime.hour * 60 + localTime.minute : Nat) - ahead)

end Timestamp

end ObjectMemory
