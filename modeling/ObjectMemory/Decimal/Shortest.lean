import ObjectMemory.Decimal.Binary64

/-!
# The shortest decimal of a double

The fewest decimal digits that a correct reader turns back into a given number, and of those the
digits nearest to it.  The numbers that read back are those of an interval around the magnitude,
which reaches half way to its two neighbours; the ends belong to it when the code is even.  On a
grid of multiples of `10 ^ g` a point lies in the interval only if one of the two grid points next
to the magnitude does, so the coarsest grid with such a hit gives the digits.

* `Shortest` — digits and the power of ten of their unit;
* `Binary64.shortest` — the search;
* `Layout` — where a format leaves positional notation, and `Layout.write` — the text.
-/

namespace ObjectMemory.Decimal

/-- A decimal: a whole number of units of `10 ^ unit`. -/
structure Shortest where
  /-- The digits, as a number that is no multiple of ten unless it is zero. -/
  digits : Nat
  /-- The power of ten of the last digit. -/
  unit : Int
  deriving DecidableEq, Repr

namespace Binary64

/-- A quarter of the unit of the magnitude, in which the ends of its interval are whole, as a
numerator and a denominator. -/
def quarter (x : Binary64) : Nat × Nat :=
  (1 <<< (x.exponent - 2).toNat, 1 <<< (2 - x.exponent).toNat)

/-- The lower and upper end of the interval that reads back as the magnitude, in quarters.  Below a
power of two the neighbour is half as far. -/
def readBackEnds (x : Binary64) : Nat × Nat :=
  let narrow := x.code % fractionSize == 0 && fractionSize < x.code
  (4 * x.significand - (if narrow then 1 else 2), 4 * x.significand + 2)

/-- The multiple of `10 ^ unit` nearest to the magnitude among those that read back as it, as the
number of units; of two equally near the even one. -/
def gridPoint (x : Binary64) (unit : Int) : Option Nat :=
  let (num, den) := x.quarter
  let up := Nat.pow 10 unit.toNat
  let down := Nat.pow 10 (-unit).toNat
  -- in units of `10 ^ unit` a number of quarters `q` is `q * scale / base`
  let scale := num * down
  let base := den * up
  let (low, high) := x.readBackEnds
  let even := x.code % 2 == 0
  let reads (n : Nat) : Bool :=
    let n := n * base
    if even then low * scale ≤ n && n ≤ high * scale
    else low * scale < n && n < high * scale
  let exact := 4 * x.significand * scale
  let below := exact / base
  let above := below + 1
  let nearer := 2 * exact < (below + above) * base
  let tied := 2 * exact == (below + above) * base
  match reads below, reads above with
  | true, true => some (if nearer || (tied && below % 2 == 0) then below else above)
  | true, false => some below
  | false, true => some above
  | false, false => none

/-- The first of `steps` grids, from `unit` down, that has a point which reads back. -/
def coarsest (x : Binary64) (unit : Int) : (steps : Nat) → Shortest
  | 0 => ⟨0, 0⟩
  | steps + 1 =>
    match x.gridPoint unit with
    | some digits => ⟨digits, unit⟩
    | none => x.coarsest (unit - 1) steps

/-- A power of ten above the magnitude and its neighbours, as its exponent, and close to them. -/
def ceilingTen (x : Binary64) : Int :=
  ((Nat.log2 x.significand : Int) + x.exponent + 2) * 30103 / 100000 + 1

/-- The shortest decimal that reads back as the magnitude.  Seventeen digits always suffice, and the
search starts no more than two places above the first of them. -/
def shortest (x : Binary64) : Shortest :=
  if x.isZero then ⟨0, 0⟩ else x.coarsest x.ceilingTen 20

end Binary64

/-! ## Writing it down -/

/-- Where a format writes digits in place: the least and the greatest power of ten of a first digit
for which it does. -/
structure Layout where
  least : Int
  greatest : Int

/-- A decimal as text, without a sign.  In place, a fraction is always shown, if only as a zero;
otherwise the first digit, the others behind a point, and a signed exponent. -/
def Layout.write (layout : Layout) (decimal : Shortest) : String :=
  let digits := Nat.toDigits 10 decimal.digits
  let places : Int := digits.length - 1
  let first := decimal.unit + places
  if layout.least ≤ first ∧ first ≤ layout.greatest then
    if 0 ≤ decimal.unit then
      .ofList (digits ++ List.replicate decimal.unit.toNat '0' ++ ['.', '0'])
    else if 0 ≤ first then
      let whole := first.toNat + 1
      .ofList (digits.take whole ++ '.' :: digits.drop whole)
    else .ofList ('0' :: '.' :: List.replicate (-first - 1).toNat '0' ++ digits)
  else
    let fraction := digits.drop 1
    let mantissa := digits.take 1 ++ (if fraction.isEmpty then [] else '.' :: fraction)
    let sign := if first < 0 then '-' else '+'
    .ofList (mantissa ++ 'e' :: sign :: Nat.toDigits 10 first.natAbs)

end ObjectMemory.Decimal
