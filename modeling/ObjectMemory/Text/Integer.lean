/-!
# Integers in text

Reading a whole number from a text that is nothing else: decimal digits, after a sign where one is
allowed.  No blanks, no separators, no empty text; leading zeros are digits like any other.

* `readNatural` — digits alone;
* `readUnsigned` — an optional plus sign, up to a bound;
* `readSigned` — an optional sign, inside the signed 64-bit range.
-/

namespace ObjectMemory.Text

/-- The value of an ASCII digit. -/
def digitValue (c : Char) : Nat := c.toNat - '0'.toNat

/-- The number that digits spell in base 10. -/
def ofDigits (digits : List Char) : Nat := Nat.ofDigitChars 10 digits 0

/-- Reading the decimal digits of a number gives the number. -/
@[simp] theorem ofDigits_toDigits (n : Nat) : ofDigits (Nat.toDigits 10 n) = n :=
  Nat.ofDigitChars_ten_toDigits

/-- The number spelled by a nonempty text of ASCII digits. -/
def readNatural (cs : List Char) : Option Nat :=
  if !cs.isEmpty && cs.all Char.isDigit then some (ofDigits cs) else none

/-- The number below `bound` spelled by digits after an optional plus sign. -/
def readUnsigned (bound : Nat) (cs : List Char) : Option Nat :=
  let digits := match cs with
    | '+' :: rest => rest
    | _ => cs
  (readNatural digits).filter (· < bound)

/-- The signed 64-bit number spelled by digits after an optional sign. -/
def readSigned (cs : List Char) : Option Int64 :=
  let number : Option Int := match cs with
    | '+' :: rest => (readNatural rest).map Int.ofNat
    | '-' :: rest => (readNatural rest).map fun n => -(n : Int)
    | _ => (readNatural cs).map Int.ofNat
  (number.filter fun n => -0x8000000000000000 ≤ n && n < 0x8000000000000000).map Int64.ofInt

end ObjectMemory.Text
