import ObjectMemory.Decimal.Extended
import ObjectMemory.Json.Numeral

/-!
# Numbers in a table

A column that prefers numbers to text stores a numeral as the number it stands for: as a whole one
where it can, else as a double.  Which of the two it is shows when the cell is read as text.

The database has its own way to value a numeral.  Digits are gathered into one number up to the
first that takes it past a bound, zeros at its end are traded for places, and it is scaled by a
power of ten in extended precision.  So digits past the nineteenth or twentieth have no say, even
where the decimal lies half way between two doubles.

* `gather` — the digits that count; `gathered` — what a numeral gathers;
* `storedDouble` — the double that the database makes of a numeral;
* `isWholeCell` — whether a numeral is stored as a whole number;
* `literal?` — the numeral that a text is, which need not be one of JSON.
-/

namespace ObjectMemory.Backend

open Json Decimal

/-- A number from here on takes no further digit. -/
def gatherBound : Nat := 1844674407370955160

/-- Appends digits to a number that is below the bound; the number, and how many digits were left
out. -/
def gather (n : Nat) : List Char → Nat × Nat
  | [] => (n, 0)
  | c :: rest =>
    if n < gatherBound then gather (n * 10 + Text.digitValue c) rest else (n, rest.length + 1)

/-- The power of ten that an exponent is written for.  One of more than five digits counts as ten
thousand, which is past all doubles already. -/
def writtenPower (exponent : WrittenExponent) : Int :=
  let n := Text.ofDigits exponent.digits
  let n := if n < 100000 then n else 10000
  if exponent.negative then -n else n

/-- The digits of a numeral as one number, and the power of ten of its unit. -/
def gathered (numeral : Numeral) : Nat × Int :=
  let (whole, excess) := gather 0 numeral.whole
  let fraction := numeral.fraction.getD []
  let (digits, cut) := gather whole fraction
  let power := match numeral.exponent with
    | some exponent => writtenPower exponent
    | none => 0
  (digits, power + excess - (fraction.length - cut : Nat))

/-- Takes at most `places` zeros off the end of a number; the number, and the places that remain. -/
def dropZeros (n : Nat) : (places : Nat) → Nat × Nat
  | 0 => (n, 0)
  | places + 1 => if n % 10 = 0 then dropZeros (n / 10) places else (n, places + 1)

/-- The double that the database makes of a numeral, unless it is out of range. -/
def storedDouble (numeral : Numeral) : Option Binary64 :=
  let (digits, power) := gathered numeral
  let (digits, power) : Nat × Int :=
    if power < 0 then
      let (digits, places) := dropZeros digits power.natAbs
      (digits, -places)
    else (digits, power)
  ((Extended.ofRatio digits 1).scaleTen power).toBinary64 numeral.negative

/-- Whether a numeral is stored as a whole number: it is spelled as a whole number of the signed
64-bit range, or its double has no fraction and lies strictly between the ends of that range. -/
def isWholeNumeral (numeral : Numeral) : Bool :=
  match numeral.integer?, storedDouble numeral with
  | some (.integer n _), _ => n < 0x8000000000000000
  | _, some x =>
    x.isIntegral && decide (-0x8000000000000000 < x.truncate ∧ x.truncate < 0x8000000000000000)
  | _, none => false

/-- Whether the number that a text spells is stored as a whole number. -/
def isWholeCell (spelling : List Char) : Bool :=
  let negative := spelling.head? == some '-'
  match readNumeral negative (if negative then spelling.drop 1 else spelling) with
  | .ok (numeral, _) => isWholeNumeral numeral
  | .error _ => false

/-! ## Texts that are numbers -/

/-- Whether a character may stand around a number: the space, or a control from tab to carriage
return. -/
def isPadding (c : Char) : Bool := c = ' ' || (0x9 ≤ c.toNat && c.toNat ≤ 0xD)

/-- The numeral that a text is, with padding around it, after either sign, and with a digit on at
least one side of the point.  Such a text is stored as a number. -/
def literal? (text : List Char) : Option Numeral :=
  let (negative, text) := readSign (text.dropWhile isPadding)
  let whole := text.takeWhile Char.isDigit
  let (fraction, rest) := match text.dropWhile Char.isDigit with
    | '.' :: rest => (some (rest.takeWhile Char.isDigit), rest.dropWhile Char.isDigit)
    | rest => (none, rest)
  match readExponent rest with
  | .ok (exponent, rest) =>
    if (whole ++ fraction.getD []).isEmpty || !rest.all isPadding then none
    else some ⟨negative, whole, fraction, exponent⟩
  | .error _ => none

end ObjectMemory.Backend
