import ObjectMemory.Decimal.Binary64

/-!
# Numbers of extended precision

Magnitudes with a significand of 64 bits and an exponent without bounds.  A reader of decimals that
scales in them and rounds to a double at the end gives the nearest double but for rare cases: what
is lost in the last of 64 bits seldom shows in 53.

* `Extended` — the type; `Extended.ofRatio` — the magnitude nearest to a quotient;
* `mul` — the rounded product; `scaleTen` — a magnitude times a power of ten, factor by factor;
* `toBinary64` — the double nearest to a magnitude.
-/

namespace ObjectMemory.Decimal

/-- The magnitude `significand · 2 ^ exponent`, where the significand has at most 64 bits. -/
structure Extended where
  significand : Nat
  exponent : Int
  deriving DecidableEq, Repr

namespace Extended

/-- The magnitude nearest to a quotient, of two the one with the even significand. -/
def ofRatio (num den : Nat) : Extended :=
  if num = 0 then ⟨0, 0⟩
  else
    let unit := Binary64.floorLog num den - 63
    ⟨Binary64.roundEven (num <<< (-unit).toNat) (den <<< unit.toNat), unit⟩

def mul (x y : Extended) : Extended :=
  let product := ofRatio (x.significand * y.significand) 1
  ⟨product.significand, product.exponent + x.exponent + y.exponent⟩

/-- The number times a factor, so many times, with each product rounded. -/
def mulTimes (x factor : Extended) : (times : Nat) → Extended
  | 0 => x
  | times + 1 => (x.mul factor).mulTimes factor times

/-- The magnitude nearest to a power of ten or to its inverse. -/
def tenPower (inverse : Bool) (places : Nat) : Extended :=
  if inverse then ofRatio 1 (Nat.pow 10 places) else ofRatio (Nat.pow 10 places) 1

/-- The number times `10 ^ power`: a hundred places at a time, then ten, then one. -/
def scaleTen (x : Extended) (power : Int) : Extended :=
  let factor := tenPower (power < 0)
  let places := power.natAbs
  ((x.mulTimes (factor 100) (places / 100)).mulTimes (factor 10) (places % 100 / 10)).mulTimes
    (factor 1) (places % 10)

/-- The double nearest to the magnitude, with a sign, unless that is out of range. -/
def toBinary64 (x : Extended) (negative : Bool) : Option Binary64 :=
  Binary64.ofRatio negative (x.significand <<< x.exponent.toNat) (1 <<< (-x.exponent).toNat)

end Extended

end ObjectMemory.Decimal
