import ObjectMemory.Proofs.Timestamp.RoundTrip

/-!
# How moments are written

The texts that are read as moments, told as a grammar.  A text has the fields of a local time, each
of a width of its own, and an offset, which is how far that time is ahead of UTC.  Two parts may be
written in several ways: the part of a second, which may be left out and has as many digits as one
likes, and the offset, which may be a letter.

A reader takes each field off the front and leaves what is behind it.  That it takes just the fields
of the grammar is said for each of them in both directions, and the two meet in the whole text.

* `Spells`, `FractionText`, `OffsetText`, `TimeText` — fields, and texts of moments;
* `Spells.take`, `FractionText.take`, `OffsetText.read` — what is of the grammar is read;
* `exists_spells`, `exists_fractionText`, `offsetText_of_read` — what is read is of the grammar;
* **`Timestamp.decode?_eq_some_iff`** — the moments that are read.
-/

namespace ObjectMemory

open Text

/-! ## The grammar -/

/-- Exactly so many digits, which spell a number. -/
structure Spells (width n : ℕ) (digits : List Char) : Prop where
  length : digits.length = width
  decimal : ∀ c ∈ digits, c.isDigit = true
  value : ofDigits digits = n

/-- The part of a second behind a point, in nanoseconds.  Digits past the ninth do not count. -/
inductive FractionText : List Char → ℕ → Prop
  | none : FractionText [] 0
  | digits {ds : List Char} (nonempty : ds ≠ []) (decimal : ∀ c ∈ ds, c.isDigit = true) :
    FractionText ('.' :: ds) (ofDigits ((ds.take 9).rightpad 9 '0'))

/-- The minutes by which a local time is ahead of UTC.  West of Greenwich the sign may be a hyphen
or a minus. -/
inductive OffsetText : List Char → ℤ → Prop
  | utc {letter : Char} (hletter : letter = 'Z' ∨ letter = 'z') : OffsetText [letter] 0
  | east {hh mm : List Char} {hours minutes : ℕ} (hhours : Spells 2 hours hh)
    (hminutes : Spells 2 minutes mm) (hours_lt : hours < 24) (minutes_lt : minutes < 60) :
    OffsetText ('+' :: (hh ++ ':' :: mm)) (hours * 60 + minutes)
  | west {sign : Char} {hh mm : List Char} {hours minutes : ℕ}
    (hsign : sign = '-' ∨ sign = '\u2212') (hhours : Spells 2 hours hh)
    (hminutes : Spells 2 minutes mm) (hours_lt : hours < 24) (minutes_lt : minutes < 60) :
    OffsetText (sign :: (hh ++ ':' :: mm)) (-(hours * 60 + minutes))

/-- A local time and the minutes by which it is ahead of UTC, as a text. -/
inductive TimeText : List Char → Timestamp → ℤ → Prop
  | mk {yyyy mm dd hh min ss fraction offset : List Char} {year : ℕ} {separator : Char}
    {localTime : Timestamp} {ahead : ℤ} (hyear : Spells 4 year yyyy)
    (year_eq : localTime.date.year = year) (hmonth : Spells 2 localTime.date.month mm)
    (hday : Spells 2 localTime.date.day dd)
    (hseparator : separator ∈ ['T', 't', ' '])
    (hhour : Spells 2 localTime.hour hh) (hminute : Spells 2 localTime.minute min)
    (hsecond : Spells 2 localTime.second ss)
    (hfraction : FractionText fraction localTime.nanosecond) (hoffset : OffsetText offset ahead) :
    TimeText (yyyy ++ '-' :: (mm ++ '-' :: (dd ++ separator :: (hh ++ ':' :: (min ++ ':' ::
      (ss ++ (fraction ++ offset))))))) localTime ahead

variable {width n : ℕ} {digits fraction offset text rest : List Char} {ahead : ℤ}

/-! ## Fields -/

lemma Spells.take (h : Spells width n digits) (rest : List Char) :
    takeDigits width (digits ++ rest) = some (n, rest) := by
  have htake : (digits ++ rest).take width = digits := by
    rw [← h.length, List.take_left]
  have hdrop : (digits ++ rest).drop width = rest := by
    rw [← h.length, List.drop_left]
  have hall : digits.all Char.isDigit = true := List.all_eq_true.mpr h.decimal
  simp only [takeDigits, htake, hdrop, h.length, hall, and_self, if_true, h.value]

lemma exists_spells (h : takeDigits width text = some (n, rest)) :
    ∃ digits, text = digits ++ rest ∧ Spells width n digits := by
  rw [takeDigits] at h
  split_ifs at h with hdigits
  obtain ⟨hlength, hall⟩ := hdigits
  obtain ⟨hvalue, hrest⟩ := Prod.mk.inj (Option.some.inj h)
  refine ⟨text.take width, ?_, hlength, List.all_eq_true.mp hall, hvalue⟩
  rw [← hrest, List.take_append_drop]

lemma Spells.lt (h : Spells width n digits) : n < 10 ^ width := by
  rw [← h.value, ← h.length]
  exact ofDigits_lt h.decimal

lemma takeOne_of_mem {accepted : List Char} {c : Char} (h : c ∈ accepted) (rest : List Char) :
    takeOne accepted (c :: rest) = some rest := if_pos h

lemma eq_cons_of_takeOne {accepted : List Char} (h : takeOne accepted text = some rest) :
    ∃ c ∈ accepted, text = c :: rest := by
  cases text with
  | nil => cases h
  | cons c tail =>
      rw [takeOne] at h
      split_ifs at h with hc
      exact ⟨c, hc, by rw [Option.some.inj h]⟩

/-! ## Offsets -/

lemma OffsetText.read (h : OffsetText offset ahead) : readOffset offset = some ahead := by
  cases h with
  | utc hletter => rcases hletter with rfl | rfl <;> rfl
  | east hhours hminutes hours_lt minutes_lt =>
      have hend := hminutes.take []
      rw [List.append_nil] at hend
      simp [readOffset, hhours.take, takeOne, hend, hours_lt, minutes_lt, bind, Option.bind]
  | west hsign hhours hminutes hours_lt minutes_lt =>
      have hend := hminutes.take []
      rw [List.append_nil] at hend
      rcases hsign with rfl | rfl <;>
        simp [readOffset, hhours.take, takeOne, hend, hours_lt, minutes_lt, bind, Option.bind]

lemma offsetText_of_read (h : readOffset offset = some ahead) : OffsetText offset ahead := by
  rw [readOffset.eq_def] at h
  split at h
  · obtain rfl := Option.some.inj h
    exact .utc (.inl rfl)
  · obtain rfl := Option.some.inj h
    exact .utc (.inr rfl)
  · next sign tail _ _ =>
      obtain ⟨⟨hours, more⟩, htaken, hmore⟩ := Option.bind_eq_some_iff.mp h
      obtain ⟨more', hcolon, hmore'⟩ := Option.bind_eq_some_iff.mp hmore
      obtain ⟨⟨minutes, last⟩, htaken', hvalue⟩ := Option.bind_eq_some_iff.mp hmore'
      obtain ⟨hh, rfl, hhours⟩ := exists_spells htaken
      obtain ⟨colon, hc, rfl⟩ := eq_cons_of_takeOne hcolon
      obtain ⟨mm, rfl, hminutes⟩ := exists_spells htaken'
      obtain rfl := List.mem_singleton.mp hc
      dsimp only at hvalue
      by_cases hfields : last.isEmpty ∧ hours < 24 ∧ minutes < 60
      · obtain ⟨hlast, hours_lt, minutes_lt⟩ := hfields
        obtain rfl := List.isEmpty_iff.mp hlast
        rw [if_pos ⟨hlast, hours_lt, minutes_lt⟩] at hvalue
        rw [List.append_nil]
        split_ifs at hvalue with hplus hminus
        · obtain rfl := Option.some.inj hvalue
          rw [hplus]
          exact_mod_cast OffsetText.east hhours hminutes hours_lt minutes_lt
        · obtain rfl := Option.some.inj hvalue
          exact_mod_cast OffsetText.west hminus hhours hminutes hours_lt minutes_lt
      · rw [if_neg hfields] at hvalue
        cases hvalue
  · cases h

/-- An offset starts with a letter or a sign. -/
lemma OffsetText.eq_cons (h : OffsetText offset ahead) :
    ∃ c tail, offset = c :: tail ∧ c.isDigit = false ∧ c ≠ '.' := by
  cases h with
  | utc hletter => rcases hletter with rfl | rfl <;> exact ⟨_, _, rfl, rfl, by decide⟩
  | east => exact ⟨_, _, rfl, rfl, by decide⟩
  | west hsign => rcases hsign with rfl | rfl <;> exact ⟨_, _, rfl, rfl, by decide⟩

/-- An offset is less than a day. -/
lemma OffsetText.lt_day (h : OffsetText offset ahead) : -1440 < ahead ∧ ahead < 1440 := by
  cases h <;> omega

/-! ## Parts of a second -/

/-- The digits of the part of a second end where the offset starts. -/
lemma FractionText.take (h : FractionText fraction n) (hoffset : OffsetText offset ahead) :
    takeNanoseconds (fraction ++ offset) = some (n, offset) := by
  obtain ⟨c, tail, rfl, hdigit, hdot⟩ := hoffset.eq_cons
  cases h with
  | none =>
      rw [List.nil_append, takeNanoseconds]
      rintro ds ⟨⟩
      exact hdot rfl
  | digits nonempty decimal =>
      have hrest : NoDigit (c :: tail) := noDigit_cons tail hdigit
      simp only [List.cons_append, takeNanoseconds, takeWhile_digits decimal hrest,
        dropWhile_digits decimal hrest]
      rw [if_neg]
      simpa using nonempty

lemma exists_fractionText (h : takeNanoseconds text = some (n, rest)) :
    ∃ fraction, text = fraction ++ rest ∧ FractionText fraction n := by
  rw [takeNanoseconds.eq_def] at h
  split at h
  · next inside =>
      dsimp only at h
      split_ifs at h with hempty
      obtain ⟨hvalue, hrest⟩ := Prod.mk.inj (Option.some.inj h)
      refine ⟨'.' :: inside.takeWhile Char.isDigit, ?_, ?_⟩
      · rw [← hrest, List.cons_append, List.takeWhile_append_dropWhile]
      · rw [← hvalue]
        refine .digits (fun hnil => hempty ?_) fun c hc => List.mem_takeWhile_imp hc
        rw [hnil]
        rfl
  · obtain ⟨hvalue, hrest⟩ := Prod.mk.inj (Option.some.inj h)
    exact ⟨[], by rw [← hrest]; rfl, hvalue ▸ .none⟩

/-! ## Whole texts -/

lemma Date.fields_of_of? {year : ℤ} {month day : ℕ} {date : Date}
    (h : Date.of? year month day = some date) :
    date.year = year ∧ date.month = month ∧ date.day = day := by
  rw [Date.of?] at h
  split_ifs at h
  obtain rfl := Option.some.inj h
  exact ⟨rfl, rfl, rfl⟩

/-- The year of a local time has four digits. -/
lemma TimeText.year_range {localTime : Timestamp} (h : TimeText text localTime ahead) :
    0 ≤ localTime.date.year ∧ localTime.date.year ≤ 9999 := by
  cases h with
  | mk hyear year_eq =>
      have hlt := hyear.lt
      rw [year_eq]
      omega

lemma TimeText.lt_day {localTime : Timestamp} (h : TimeText text localTime ahead) :
    -1440 < ahead ∧ ahead < 1440 := by
  cases h with
  | mk hyear year_eq hmonth hday hseparator hhour hminute hsecond hfraction hoffset =>
      exact hoffset.lt_day

namespace Timestamp

lemma fields_of_of? {date : Date} {hour minute second nanosecond : ℕ} {moment : Timestamp}
    (h : of? date hour minute second nanosecond = some moment) :
    moment.date = date ∧ moment.hour = hour ∧ moment.minute = minute ∧ moment.second = second ∧
      moment.nanosecond = nanosecond := by
  rw [of?] at h
  split_ifs at h
  obtain rfl := Option.some.inj h
  exact ⟨rfl, rfl, rfl, rfl, rfl⟩

/-- A text that is read is one of a moment. -/
lemma timeText_of_decode? {text : String} {moment : Timestamp} (h : decode? text = some moment) :
    ∃ localTime ahead, TimeText text.toList localTime ahead ∧ localTime.shift ahead = moment := by
  obtain ⟨⟨year, _⟩, hyear, h⟩ := Option.bind_eq_some_iff.mp h
  obtain ⟨_, hdash, h⟩ := Option.bind_eq_some_iff.mp h
  obtain ⟨⟨month, _⟩, hmonth, h⟩ := Option.bind_eq_some_iff.mp h
  obtain ⟨_, hdash', h⟩ := Option.bind_eq_some_iff.mp h
  obtain ⟨⟨day, _⟩, hday, h⟩ := Option.bind_eq_some_iff.mp h
  obtain ⟨_, hseparator, h⟩ := Option.bind_eq_some_iff.mp h
  obtain ⟨⟨hour, _⟩, hhour, h⟩ := Option.bind_eq_some_iff.mp h
  obtain ⟨_, hcolon, h⟩ := Option.bind_eq_some_iff.mp h
  obtain ⟨⟨minute, _⟩, hminute, h⟩ := Option.bind_eq_some_iff.mp h
  obtain ⟨_, hcolon', h⟩ := Option.bind_eq_some_iff.mp h
  obtain ⟨⟨second, _⟩, hsecond, h⟩ := Option.bind_eq_some_iff.mp h
  obtain ⟨⟨nanosecond, _⟩, hfraction, h⟩ := Option.bind_eq_some_iff.mp h
  obtain ⟨ahead, hoffset, h⟩ := Option.bind_eq_some_iff.mp h
  obtain ⟨date, hdate, h⟩ := Option.bind_eq_some_iff.mp h
  obtain ⟨localTime, hlocal, hmoment⟩ := Option.bind_eq_some_iff.mp h
  clear h
  obtain ⟨yyyy, htext, hyyyy⟩ := exists_spells hyear
  obtain ⟨dash, hmem, rfl⟩ := eq_cons_of_takeOne hdash
  obtain rfl := List.mem_singleton.mp hmem
  obtain ⟨mm, rfl, hmm⟩ := exists_spells hmonth
  obtain ⟨dash, hmem, rfl⟩ := eq_cons_of_takeOne hdash'
  obtain rfl := List.mem_singleton.mp hmem
  obtain ⟨dd, rfl, hdd⟩ := exists_spells hday
  obtain ⟨separator, hbetween, rfl⟩ := eq_cons_of_takeOne hseparator
  obtain ⟨hh, rfl, hhh⟩ := exists_spells hhour
  obtain ⟨colon, hmem, rfl⟩ := eq_cons_of_takeOne hcolon
  obtain rfl := List.mem_singleton.mp hmem
  obtain ⟨min, rfl, hmin⟩ := exists_spells hminute
  obtain ⟨colon, hmem, rfl⟩ := eq_cons_of_takeOne hcolon'
  obtain rfl := List.mem_singleton.mp hmem
  obtain ⟨ss, rfl, hss⟩ := exists_spells hsecond
  obtain ⟨fraction, rfl, hnanosecond⟩ := exists_fractionText hfraction
  obtain ⟨rfl, rfl, rfl, rfl, rfl⟩ := fields_of_of? hlocal
  obtain ⟨year_eq, rfl, rfl⟩ := Date.fields_of_of? hdate
  refine ⟨localTime, ahead, htext ▸ ?_, Option.some.inj hmoment⟩
  exact .mk hyyyy year_eq hmm hdd hbetween hhh hmin hss hnanosecond
    (offsetText_of_read hoffset)

/-- A text of a moment is read. -/
lemma decode?_of_timeText {text : String} {localTime : Timestamp} {ahead : ℤ}
    (h : TimeText text.toList localTime ahead) : decode? text = some (localTime.shift ahead) := by
  rw [decode?]
  generalize text.toList = chars at h
  cases h with
  | mk hyear year_eq hmonth hday hseparator hhour hminute hsecond hfraction hoffset =>
      refine Option.bind_eq_some_iff.mpr ⟨_, hyear.take _, ?_⟩
      refine Option.bind_eq_some_iff.mpr ⟨_, rfl, ?_⟩
      refine Option.bind_eq_some_iff.mpr ⟨_, hmonth.take _, ?_⟩
      refine Option.bind_eq_some_iff.mpr ⟨_, rfl, ?_⟩
      refine Option.bind_eq_some_iff.mpr ⟨_, hday.take _, ?_⟩
      refine Option.bind_eq_some_iff.mpr ⟨_, takeOne_of_mem hseparator _, ?_⟩
      refine Option.bind_eq_some_iff.mpr ⟨_, hhour.take _, ?_⟩
      refine Option.bind_eq_some_iff.mpr ⟨_, rfl, ?_⟩
      refine Option.bind_eq_some_iff.mpr ⟨_, hminute.take _, ?_⟩
      refine Option.bind_eq_some_iff.mpr ⟨_, rfl, ?_⟩
      refine Option.bind_eq_some_iff.mpr ⟨_, hsecond.take _, ?_⟩
      refine Option.bind_eq_some_iff.mpr ⟨_, hfraction.take hoffset, ?_⟩
      refine Option.bind_eq_some_iff.mpr ⟨_, hoffset.read, ?_⟩
      refine Option.bind_eq_some_iff.mpr ⟨_, year_eq ▸ localTime.date.of?_fields, ?_⟩
      exact Option.bind_eq_some_iff.mpr ⟨_, localTime.of?_fields, rfl⟩

/-- **The moments that are read** are those of texts of the grammar. -/
theorem decode?_eq_some_iff {text : String} {moment : Timestamp} :
    decode? text = some moment ↔ ∃ localTime ahead,
      TimeText text.toList localTime ahead ∧ localTime.shift ahead = moment :=
  ⟨timeText_of_decode?, fun ⟨_, _, htext, hmoment⟩ => hmoment ▸ decode?_of_timeText htext⟩

end Timestamp

end ObjectMemory
