import ObjectMemory.Text.Integer
import ObjectMemory.Json.Grammar

/-!
# Numerals

The spelling of a number and the number it stands for.  A numeral is a sign, whole digits, and
perhaps a fraction and an exponent; `readNumeral` takes one off a text, and `Numeral.number` values
it.

A numeral of whole digits alone is an integer when 64 bits hold it, except for a minus zero.  All
others are doubles, and their value is not always the nearest double to the decimal that is spelled:
digits are collected into one number below `2 ^ 64` while they fit, the first that does not fit and
those after it only count, and the collected number is scaled by a power of ten in one rounded step
(`Binary64.scaleTen`).

* `Numeral` — the spelling; `readNumeral` — taking one off a text;
* `collect` — the digits that fit; `Numeral.decimal` — what a numeral collects;
* `Numeral.number` — the number.
-/

namespace ObjectMemory.Json

open Decimal

/-! ## Spelling -/

/-- The exponent of a numeral as it is written. -/
structure WrittenExponent where
  negative : Bool
  digits : List Char
  deriving DecidableEq, Repr

/-- The spelling of a number. -/
structure Numeral where
  negative : Bool
  /-- The digits before the point. -/
  whole : List Char
  /-- The digits behind the point, if there is one. -/
  fraction : Option (List Char)
  exponent : Option WrittenExponent
  deriving DecidableEq, Repr

/-- Takes the whole digits: a zero alone, or digits that start with another. -/
def readWhole : Reader (List Char)
  | [] => .error (.taken .endInValue [])
  | '0' :: rest =>
    match rest with
    | c :: _ => if c.isDigit then .error (.ahead .badNumber rest) else .ok (['0'], rest)
    | [] => .ok (['0'], [])
  | c :: rest =>
    if c.isDigit then .ok (c :: rest.takeWhile Char.isDigit, rest.dropWhile Char.isDigit)
    else .error (.ahead .badNumber (c :: rest))

/-- Takes a point and the digits behind it, if a point is next. -/
def readFraction : List Char → Except Fault (Front (Option (List Char)))
  | '.' :: rest =>
    match rest.takeWhile Char.isDigit with
    | [] => .error (.ahead (if rest.isEmpty then .endInValue else .badNumber) rest)
    | digits => .ok (some digits, rest.dropWhile Char.isDigit)
  | rest => .ok (none, rest)

/-- Takes a sign, if one is next; whether it is a minus. -/
def readSign : List Char → Bool × List Char
  | '+' :: rest => (false, rest)
  | '-' :: rest => (true, rest)
  | rest => (false, rest)

/-- Takes an exponent, if its letter is next. -/
def readExponent : Reader (Option WrittenExponent)
  | c :: rest =>
    if c = 'e' ∨ c = 'E' then
      let (negative, rest) := readSign rest
      match rest.takeWhile Char.isDigit with
      | [] => .error (.ahead (if rest.isEmpty then .endInValue else .badNumber) rest)
      | digits => .ok (some ⟨negative, digits⟩, rest.dropWhile Char.isDigit)
    else .ok (none, c :: rest)
  | [] => .ok (none, [])

/-- Takes the numeral that starts the text, behind its sign. -/
def readNumeral (negative : Bool) (text : List Char) : Except Fault (Front Numeral) := do
  let (whole, text) ← readWhole text
  let (fraction, text) ← readFraction text
  let (exponent, text) ← readExponent text
  return (⟨negative, whole, fraction, exponent⟩, text)

/-! ## Value -/

/-- Appends digits to a number while the result is below `2 ^ 64`; the number, and the digits from
the first that does not fit. -/
def collect (n : Nat) : List Char → Nat × List Char
  | [] => (n, [])
  | c :: rest =>
    let next := n * 10 + Text.digitValue c
    if next < 0x10000000000000000 then collect next rest else (n, c :: rest)

/-- The digits of a numeral without its exponent: a number below `2 ^ 64`, and the power of ten of
its unit.  Each whole digit that does not fit counts for one power up, each fraction digit that fits
for one down. -/
def Numeral.decimal (numeral : Numeral) : Nat × Int :=
  let (whole, excess) := collect 0 numeral.whole
  let fraction := numeral.fraction.getD []
  let (all, cut) := collect whole fraction
  (all, (excess.length : Int) - (fraction.length - cut.length : Nat))

/-- The value of exponent digits, or, past the greatest signed 32-bit number, the digits that follow
the first one to exceed it. -/
def exponentValue (n : Nat) : List Char → Except (List Char) Nat
  | [] => .ok n
  | c :: rest =>
    let next := n * 10 + Text.digitValue c
    if next < 0x80000000 then exponentValue next rest else .error rest

/-- The double that a numeral stands for.  One too large is refused with the digits of the numeral
that need not be looked at to see that. -/
def Numeral.double (numeral : Numeral) : Except (List Char) Binary64 :=
  let (digits, unit) := numeral.decimal
  let scaled (power : Int) : Except (List Char) Binary64 :=
    match Binary64.ofNat digits >>= fun x => x.scaleTen power with
    | some x => .ok (x.withSign numeral.negative)
    | none => .error []
  match numeral.exponent with
  | none => scaled unit
  | some written =>
    match exponentValue 0 written.digits with
    | .ok n => scaled (if written.negative then unit - n else unit + n)
    | .error unseen =>
      if digits = 0 ∨ written.negative then .ok (.zero numeral.negative) else .error unseen

/-- The integer that a numeral stands for: of one without fraction and exponent, if 64 bits hold it.
There is no negative zero among the integers. -/
def Numeral.integer? (numeral : Numeral) : Option Number :=
  match numeral.fraction, numeral.exponent with
  | none, none =>
    let n := Text.ofDigits numeral.whole
    if numeral.negative then
      if h : 0 < n ∧ n ≤ 0x8000000000000000 then some (.integer (-n) (by omega)) else none
    else if h : n < 0x10000000000000000 then some (.integer n (by omega)) else none
  | _, _ => none

def Numeral.number (numeral : Numeral) : Except (List Char) Number :=
  match numeral.integer? with
  | some n => .ok n
  | none => numeral.double.map .float

/-- Takes the number that starts the text, behind its sign. -/
def readNumber (negative : Bool) (text : List Char) : Except Fault (Front Number) := do
  let (numeral, rest) ← readNumeral negative text
  match numeral.number with
  | .ok n => return (n, rest)
  | .error unseen => throw (.taken .numberTooLarge (unseen ++ rest))

end ObjectMemory.Json
