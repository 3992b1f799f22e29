/-!
# Finite double-precision numbers

A finite binary64 number as plain data: a sign, and the exponent and fraction fields read as one
number.  That code counts the magnitudes from zero up, so the order of codes is the order of
magnitudes and the neighbour of a magnitude is the next code.  Infinities and NaN are no members:
what reads a number refuses them.

All arithmetic is exact on natural numbers until one rounding, to the nearest magnitude with ties
to the even code (`nearestCode`).

* `Binary64` — the type; `significand`, `exponent` — magnitude `significand · 2 ^ exponent`;
* `ofRatio` — the number nearest to a quotient;
* `mul`, `div` — one rounded operation each;
* `scaleTen` — a number times a power of ten, as a reader of decimals does it;
* `isIntegral`, `truncate` — whole numbers among them, and the whole part.
-/

namespace ObjectMemory.Decimal

/-- A finite binary64 number. -/
structure Binary64 where
  /-- Whether the sign is minus; zero has both signs. -/
  negative : Bool
  /-- The exponent field and the fraction field as one number. -/
  code : Nat
  /-- The exponent field is below 2047, the one of infinities and NaN. -/
  finite : code < 0x7ff0000000000000
  deriving DecidableEq, Repr

namespace Binary64

/-! ## Magnitude -/

/-- The number of codes that share an exponent field: the fraction field has 52 bits. -/
def fractionSize : Nat := 0x10000000000000

def zero (negative : Bool) : Binary64 := ⟨negative, 0, by decide⟩

/-- Whether the number is a zero, of either sign. -/
def isZero (x : Binary64) : Bool := x.code == 0

def withSign (x : Binary64) (negative : Bool) : Binary64 := { x with negative }

/-- The whole number of units in the magnitude. -/
def significand (x : Binary64) : Nat :=
  if x.code < fractionSize then x.code else fractionSize + x.code % fractionSize

/-- The power of two that is the unit of the magnitude. -/
def exponent (x : Binary64) : Int :=
  if x.code < fractionSize then -1074 else (x.code / fractionSize : Nat) - 1075

/-- Numerator of the magnitude as a quotient. -/
def numerator (x : Binary64) : Nat := x.significand <<< x.exponent.toNat

/-- Denominator of the magnitude as a quotient. -/
def denominator (x : Binary64) : Nat := 1 <<< (-x.exponent).toNat

/-! ## Rounding -/

/-- The whole number nearest to a quotient, the even one of two. -/
def roundEven (num den : Nat) : Nat :=
  let whole := num / den
  let twice := 2 * (num % den)
  if twice < den then whole else if den < twice then whole + 1 else whole + whole % 2

/-- The largest power of two, as its exponent, that is at most a positive quotient. -/
def floorLog (num den : Nat) : Int :=
  let guess : Int := (Nat.log2 num : Int) - Nat.log2 den
  if den <<< guess.toNat ≤ num <<< (-guess).toNat then guess else guess - 1

/-- The code of the magnitude nearest to a quotient.  A quotient past the greatest magnitude may
give a code that is not finite. -/
def nearestCode (num den : Nat) : Nat :=
  if num = 0 then 0
  else
    let unit := max (-1074) (floorLog num den - 52)
    (unit + 1074).toNat * fractionSize +
      roundEven (num <<< (-unit).toNat) (den <<< unit.toNat)

/-- The number nearest to a quotient, unless that is out of range. -/
def ofRatio (negative : Bool) (num den : Nat) : Option Binary64 :=
  let code := nearestCode num den
  if finite : code < 0x7ff0000000000000 then some ⟨negative, code, finite⟩ else none

def ofNat (n : Nat) : Option Binary64 := ofRatio false n 1

/-! ## Arithmetic -/

def mul (x y : Binary64) : Option Binary64 :=
  ofRatio (x.negative != y.negative) (x.numerator * y.numerator)
    (x.denominator * y.denominator)

/-- The rounded quotient by a number that is not zero, unless it is out of range. -/
def div (x y : Binary64) : Option Binary64 :=
  ofRatio (x.negative != y.negative) (x.numerator * y.denominator)
    (x.denominator * y.numerator)

/-- The greatest power of ten that has a number near it. -/
def tenLimit : Nat := 308

/-- The number divided by `10 ^ power`, in steps of at most `10 ^ 308`.  Zero stays as it is, which
ends a long division early; `steps` bounds it. -/
def shrinkTen (x : Binary64) (power : Nat) : (steps : Nat) → Option Binary64
  | 0 => some x
  | steps + 1 =>
    if power ≤ tenLimit then do x.div (← ofNat (Nat.pow 10 power))
    else if x.isZero then some x
    else do (← x.div (← ofNat (Nat.pow 10 tenLimit))).shrinkTen (power - tenLimit) steps

/-- The number times `10 ^ power`: one rounded product by the number nearest to a power of ten, or
rounded quotients by such numbers.  The result is close to the exact value, and not always the
nearest number to it.  Nothing comes of a result out of range, nor of a power of ten out of range
unless the number is zero. -/
def scaleTen (x : Binary64) (power : Int) : Option Binary64 :=
  if 0 ≤ power then
    if power ≤ tenLimit then do x.mul (← ofNat (Nat.pow 10 power.toNat))
    else if x.isZero then some x
    else none
  else x.shrinkTen power.natAbs (power.natAbs / tenLimit + 1)

/-! ## Whole numbers -/

/-- Whether the number has no fraction. -/
def isIntegral (x : Binary64) : Bool := x.numerator % x.denominator == 0

/-- The whole part of the number, cut toward zero. -/
def truncate (x : Binary64) : Int :=
  let whole : Int := (x.numerator / x.denominator : Nat)
  if x.negative then -whole else whole

/-- Whether two numbers stand for the same value: the zeros of both signs do. -/
def sameValue (x y : Binary64) : Bool := x == y || (x.isZero && y.isZero)

end Binary64

end ObjectMemory.Decimal
