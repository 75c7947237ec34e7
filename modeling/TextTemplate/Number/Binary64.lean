/-! # Finite double-precision numbers

A finite number of the 64-bit binary format is a sign, a significand below 2^53
and an exponent of two.  Zero has significand 0 and exponent 0; every other
number has either a significand of full length or the least exponent, so equal
numbers are equal values.

All arithmetic is one rule: compute the exact quotient and round it to the
nearest number of the format, a half going to the even significand (`round`).
A result too large for the format is no number (`none`).

In the other direction a number is written with the fewest decimal digits that
still identify it (`shortest`). -/
namespace TextTemplate

/-- The number `± significand * 2 ^ exponent`. -/
structure Binary64 where
  negative : Bool
  significand : Nat
  exponent : Int
deriving DecidableEq, Repr, Inhabited

namespace Binary64

/-- The significand of every number is below this. -/
def significandBound : Nat := 1 <<< 53

/-- The least exponent. -/
def leastExponent : Int := -1074

/-- The greatest exponent. -/
def greatestExponent : Int := 971

/-- Zero with a sign. -/
def zero (negative : Bool) : Binary64 := ⟨negative, 0, 0⟩

/-- Whether the number is zero, of either sign. -/
def isZero (x : Binary64) : Bool := x.significand == 0

/-- The number with the other sign. -/
def neg (x : Binary64) : Binary64 := { x with negative := !x.negative }

/-- `2 ^ e` for a positive `e`, and 1 otherwise. -/
def pow2 (e : Int) : Nat := 1 <<< e.toNat

/-- `10 ^ e` for a positive `e`, and 1 otherwise. -/
def pow10 (e : Int) : Nat := Nat.pow 10 e.toNat

/-- The quotient rounded to the nearest whole number, a half to the even one. -/
def divideToEven (num den : Nat) : Nat :=
  let quotient := num / den
  let twice := 2 * (num % den)
  if den < twice || (twice == den && quotient % 2 == 1) then quotient + 1 else quotient

/-- The exponent that gives `num / den` a significand of full length, but not
less than the least exponent. -/
def exponentFor (num den : Nat) : Int :=
  let guess : Int := (num.log2 : Int) - den.log2 - 52
  let full := den * pow2 guess * pow2 52 ≤ num * pow2 (-guess)
  max leastExponent (if full then guess else guess - 1)

/-- The number nearest to `± num / den`, if it is not too large. -/
def round (negative : Bool) (num den : Nat) : Option Binary64 :=
  if num = 0 then some (zero negative) else
  let e := exponentFor num den
  let m := divideToEven (num * pow2 (-e)) (den * pow2 e)
  let (m, e) := if m = significandBound then (pow2 52, e + 1) else (m, e)
  if m = 0 then some (zero negative)
  else if greatestExponent < e then none
  else some ⟨negative, m, e⟩

/-- The number nearest to a whole number. -/
def ofNat (n : Nat) : Option Binary64 := round false n 1

/-- The product, rounded. -/
def mul (x y : Binary64) : Option Binary64 :=
  let e := x.exponent + y.exponent
  round (x.negative != y.negative) (x.significand * y.significand * pow2 e) (pow2 (-e))

/-- The quotient by a number that is not zero, rounded. -/
def div (x y : Binary64) : Option Binary64 :=
  let e := x.exponent - y.exponent
  round (x.negative != y.negative) (x.significand * pow2 e) (y.significand * pow2 (-e))

/-- The number nearest to `± digits * 10 ^ power`.  Beyond 400 places from the
point nothing but zero and overflow is left, so the power is not formed there. -/
def ofDecimal (negative : Bool) (digits : Nat) (power : Int) : Option Binary64 :=
  let places : Int := (Nat.log2 digits : Int) * 30103 / 100000 + power
  if digits = 0 then some (zero negative)
  else if 400 < places then none
  else if places < -400 then some (zero negative)
  else round negative (digits * pow10 power) (pow10 (-power))

/-! ## The fewest digits that read back

Among the decimals that round to a number, `shortest` gives one with the fewest
digits, and of these the nearest.  The search is exact.  The reals that round to a
number form an interval, closed when the significand is even; for one digit, two
digits and so on it looks at the two points of the decimal grid around the number. -/

/-- The decimal `digits * 10 ^ power`. -/
structure Decimal where
  digits : Nat
  power : Int
deriving DecidableEq, Repr

/-- The same decimal without the zeros at the end of its digits; `fuel` bounds
their number. -/
def Decimal.trim : Nat → Decimal → Decimal
  | 0, d => d
  | fuel + 1, d =>
    if d.digits % 10 = 0 then trim fuel ⟨d.digits / 10, d.power + 1⟩ else d

/-- The magnitude of a nonzero number and of the ends of the interval that
rounds to it, all over one denominator. -/
structure Span where
  below : Nat
  value : Nat
  above : Nat
  denominator : Nat
  closed : Bool
deriving Repr

/-- The interval of the reals that round to the magnitude of `x`. -/
def span (x : Binary64) : Span :=
  let m := x.significand
  let scale := pow2 x.exponent
  -- below a power of two the neighbours are twice as close
  let narrow := m == pow2 52 && leastExponent < x.exponent
  let down := if narrow then 1 else 2
  { below := (4 * m - down) * scale
    value := 4 * m * scale
    above := (4 * m + 2) * scale
    denominator := 4 * pow2 (-x.exponent)
    closed := m % 2 == 0 }

namespace Span

/-- Whether a decimal lies in the interval. -/
def contains (s : Span) (d : Decimal) : Bool :=
  let num := d.digits * pow10 d.power * s.denominator
  let den := pow10 (-d.power)
  if s.closed then s.below * den ≤ num && num ≤ s.above * den
  else s.below * den < num && num < s.above * den

/-- The distance of a decimal from the value, over the denominator
`10 ^ (-power)` times that of the span. -/
def distance (s : Span) (d : Decimal) : Nat :=
  let num := d.digits * pow10 d.power * s.denominator
  let value := s.value * pow10 (-d.power)
  (num - value) + (value - num)

/-- The power of ten of the leading digit of the value: the greatest power not
above it.  `guess` may be too small by `fuel`. -/
def leadingPower (s : Span) : Nat → Int → Int
  | 0, guess => guess
  | fuel + 1, guess =>
    let next := guess + 1
    if pow10 next * s.denominator ≤ s.value * pow10 (-next) then
      leadingPower s fuel next
    else guess

/-- The better of the grid points around the value, if one is in the interval. -/
def candidate (s : Span) (power : Int) : Option Decimal :=
  let low : Decimal :=
    ⟨s.value * pow10 (-power) / (pow10 power * s.denominator), power⟩
  let high : Decimal := ⟨low.digits + 1, power⟩
  match s.contains low, s.contains high with
  | false, false => none
  | true, false => some low
  | false, true => some high
  | true, true =>
    if s.distance low < s.distance high then some low
    else if s.distance high < s.distance low then some high
    else if low.digits % 2 = 0 then some low else some high

/-- The first grid with a point in the interval, from `power` down. -/
def search (s : Span) : Nat → Int → Decimal
  | 0, power => ⟨s.value * pow10 (-power) / (pow10 power * s.denominator), power⟩
  | fuel + 1, power => (s.candidate power).getD (search s fuel (power - 1))

end Span

/-- The shortest decimal that rounds to the magnitude of a nonzero number, and
the nearest of these.  Seventeen digits always suffice. -/
def shortest (x : Binary64) : Decimal :=
  let s := x.span
  let guess : Int := ((x.significand.log2 : Int) + x.exponent) * 30103 / 100000 - 1
  (s.search 17 (s.leadingPower 3 guess)).trim 20

end Binary64
end TextTemplate
