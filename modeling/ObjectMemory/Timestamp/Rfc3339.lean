import ObjectMemory.Text.Integer
import ObjectMemory.Timestamp.Basic

/-!
# Moments as text

Date and time as RFC 3339 writes them.  A moment is written in UTC with a numeric offset, and with
the fewest of 0, 3, 6 or 9 digits of a second that are exact.  What is read may be in any offset
below a day and may spell its parts more freely: a blank or a small letter between date and time, a
small or capital `Z`, the minus sign U+2212, and digits of a second past the ninth, which are
dropped.

Years from 0 to 9999 have four digits.  A moment outside of them, which an offset can lead to, is
written with a signed year, and that is not read.

* `Timestamp.encode` — a moment as text;
* `Timestamp.decode?` — the moment of a text.
-/

namespace ObjectMemory

/-! ## Writing -/

/-- The digits of a number, with zeros in front up to a width. -/
def padded (width n : Nat) : List Char :=
  let digits := Nat.toDigits 10 n
  List.replicate (width - digits.length) '0' ++ digits

/-- The digits of a year: four of them, with a sign where four are not enough. -/
def yearChars (year : Int) : List Char :=
  if year < 0 then '-' :: padded 4 year.natAbs
  else if year ≤ 9999 then padded 4 year.toNat
  else '+' :: padded 4 year.toNat

/-- The part of a second behind its point, if it is not zero. -/
def nanosecondChars (n : Nat) : List Char :=
  if n = 0 then []
  else if n % 1000000 = 0 then '.' :: padded 3 (n / 1000000)
  else if n % 1000 = 0 then '.' :: padded 6 (n / 1000)
  else '.' :: padded 9 n

namespace Timestamp

def chars (moment : Timestamp) : List Char :=
  yearChars moment.date.year ++ '-' :: padded 2 moment.date.month ++
    '-' :: padded 2 moment.date.day ++ 'T' :: padded 2 moment.hour ++
    ':' :: padded 2 moment.minute ++ ':' :: padded 2 moment.second ++
    nanosecondChars moment.nanosecond ++ ['+', '0', '0', ':', '0', '0']

def encode (moment : Timestamp) : String := .ofList moment.chars

end Timestamp

/-! ## Reading -/

/-- Takes a number of exactly `width` digits off the front of a text. -/
def takeDigits (width : Nat) (text : List Char) : Option (Nat × List Char) :=
  let digits := text.take width
  if digits.length = width ∧ digits.all Char.isDigit then
    some (Text.ofDigits digits, text.drop width)
  else none

/-- Takes one of the given characters off the front of a text. -/
def takeOne (accepted : List Char) : List Char → Option (List Char)
  | c :: rest => if c ∈ accepted then some rest else none
  | [] => none

/-- Takes the part of a second off the front of a text, in nanoseconds. -/
def takeNanoseconds : List Char → Option (Nat × List Char)
  | '.' :: rest =>
    let digits := (rest.takeWhile Char.isDigit).take 9
    if digits.isEmpty then none
    else
      some (Text.ofDigits (digits.rightpad 9 '0'), rest.dropWhile Char.isDigit)
  | rest => some (0, rest)

/-- The minutes by which a local time is ahead of UTC, from the offset that ends a text. -/
def readOffset (text : List Char) : Option Int :=
  match text with
  | ['Z'] | ['z'] => some 0
  | sign :: rest => do
    let (hours, rest) ← takeDigits 2 rest
    let rest ← takeOne [':'] rest
    let (minutes, rest) ← takeDigits 2 rest
    if rest.isEmpty ∧ hours < 24 ∧ minutes < 60 then
      let ahead : Int := (hours * 60 + minutes : Nat)
      if sign = '+' then some ahead
      else if sign = '-' ∨ sign = '\u2212' then some (-ahead)
      else none
    else none
  | [] => none

/-- The moment of a text. -/
def Timestamp.decode? (text : String) : Option Timestamp := do
  let (year, rest) ← takeDigits 4 text.toList
  let rest ← takeOne ['-'] rest
  let (month, rest) ← takeDigits 2 rest
  let rest ← takeOne ['-'] rest
  let (day, rest) ← takeDigits 2 rest
  let rest ← takeOne ['T', 't', ' '] rest
  let (hour, rest) ← takeDigits 2 rest
  let rest ← takeOne [':'] rest
  let (minute, rest) ← takeDigits 2 rest
  let rest ← takeOne [':'] rest
  let (second, rest) ← takeDigits 2 rest
  let (nanosecond, rest) ← takeNanoseconds rest
  let ahead ← readOffset rest
  let date ← Date.of? year month day
  let localTime ← Timestamp.of? date hour minute second nanosecond
  return localTime.shift ahead

end ObjectMemory
