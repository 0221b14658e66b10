import ShippingRules.Number.Numeral

/-!
Numerals read by scaling. The digits of a numeral are taken as one whole number as long as 64 bits
hold it. This significand is rounded to a double, and the double is multiplied or divided by the
power of ten that is left, which is rounded as well. So the result can lie next to the double that
is nearest to the numeral.
-/
namespace ShippingRules

namespace Double

/-- The bits of the product of two finite non-negative doubles. -/
def timesBits (a b : Nat) : Nat := nearestBits (units a * units b) (Nat.pow 2 2148)

/-- The bits of the quotient of two finite doubles, the second of them positive. -/
def overBits (a b : Nat) : Nat := nearestBits (units a) (units b)

/-- The bits of the double nearest to `10 ^ k`. The last finite one is that of `10 ^ 308`. -/
def tenPowerBits (k : Nat) : Nat := nearestBits (Nat.pow 10 k) 1

/-- A double divided by `10 ^ 308` as often as given, or until it is zero. -/
def shrinkBits : Nat → Nat → Nat
  | 0, bits => bits
  | count + 1, bits =>
    if bits = 0 then 0 else shrinkBits count (overBits bits (tenPowerBits 308))

end Double

namespace Decimal

/-- The bits of the coefficient as a double times or over the power of ten as a double. -/
def scaledBits (d : Decimal) : Nat :=
  let bits := Double.nearestBits d.coefficient 1
  if 308 < d.exponent then
    if bits = 0 then 0 else Double.infinityBits
  else if 0 ≤ d.exponent then
    Double.timesBits bits (Double.tenPowerBits d.exponent.toNat)
  else
    let places := (-d.exponent).toNat - 1
    Double.overBits (Double.shrinkBits (places / 308) bits) (Double.tenPowerBits (places % 308 + 1))

end Decimal

namespace Numeral

/-- The significand with the digits that it has room for in 64 bits, and the digits from the first
one that is too many. -/
def takeDigits (significand : Nat) : List Char → Nat × List Char
  | [] => (significand, [])
  | c :: rest =>
    let longer := significand * 10 + (c.toNat - '0'.toNat)
    if longer < 18446744073709551616 then takeDigits longer rest else (significand, c :: rest)

/-- The significand of a numeral and its exponent. Each side of the point is taken for itself:
the digits of the whole side that find no room still count as places, and those behind the point
are left out. -/
def taken (n : Numeral) : Decimal :=
  let (whole, left) := takeDigits 0 n.whole
  let (significand, ignored) := takeDigits whole n.fraction
  ⟨significand, n.exponent + left.length + ignored.length - n.fraction.length⟩

/-- The double that a numeral is read as by scaling. -/
def scaled (n : Numeral) : Double := Double.ofMagnitude n.negative n.taken.scaledBits

end Numeral

end ShippingRules
