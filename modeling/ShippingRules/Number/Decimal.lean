import ShippingRules.Number.Double

/-!
Decimal fractions: a whole coefficient times a power of ten. A decimal is read as the double
nearest to it. The shortest decimal of a double has the fewest digits among those that read back
as that double; of two such with equally many digits it is the nearer one, and a tie is resolved
by the caller's choice.
-/
namespace ShippingRules

/-- The number `coefficient * 10 ^ exponent`. -/
structure Decimal where
  coefficient : Nat
  exponent : Int
deriving DecidableEq, Repr

namespace Decimal

/-- Numerator and denominator of the decimal. -/
def quotient (d : Decimal) : Nat × Nat :=
  if 0 ≤ d.exponent then (d.coefficient * Nat.pow 10 d.exponent.toNat, 1)
  else (d.coefficient, Nat.pow 10 (-d.exponent).toNat)

/-- The bits of the nearest double. Exponents far outside the range of doubles are decided without
computing their power: a positive coefficient is at least one and at most ten to its bit count. -/
def nearestBits (d : Decimal) : Nat :=
  if d.coefficient = 0 then 0
  else if 400 < d.exponent then Double.infinityBits
  else if d.exponent < -(400 + d.coefficient.log2 : Int) then 0
  else Double.nearestBits d.quotient.1 d.quotient.2

def toDouble (negative : Bool) (d : Decimal) : Double := Double.ofMagnitude negative d.nearestBits

/-- Which of two equally near decimals stands for a double. -/
inductive Tie where
  | toEven
  | up
deriving DecidableEq, Repr

/-- The position of the leading digit of the double with these bits: the greatest `k` with
`10 ^ k` at most its value. The least positive double is above `10 ^ -340`. -/
def leadingPosition (bits : Nat) : Int :=
  ((Nat.toDigits 10 (Double.units bits * Nat.pow 10 340 / Nat.pow 2 1074)).length : Int) - 341

/-- The double with these bits divided by `10 ^ position`, as a quotient. -/
def scaledQuotient (bits : Nat) (position : Int) : Nat × Nat :=
  if 0 ≤ position then (Double.units bits, Nat.pow 2 1074 * Nat.pow 10 position.toNat)
  else (Double.units bits * Nat.pow 10 (-position).toNat, Nat.pow 2 1074)

/-- Of the neighbours `num / den` and `num / den + 1` at a position, the one that reads back as the
double with these bits; if both do, the nearer one. -/
def neighbour? (tie : Tie) (bits : Nat) (position : Int) (num den : Nat) : Option Decimal :=
  let below : Decimal := ⟨num / den, position⟩
  let above : Decimal := ⟨num / den + 1, position⟩
  let twice := 2 * (num % den)
  if below.nearestBits = bits then
    if above.nearestBits = bits then
      if twice < den then some below
      else if den < twice then some above
      else match tie with
        | .toEven => if num / den % 2 = 0 then some below else some above
        | .up => some above
    else some below
  else if above.nearestBits = bits then some above
  else none

/-- The decimal with the given count of digits that stands for the double, if one of the double's
two neighbours on that grid reads back as it. -/
def withDigits (tie : Tie) (bits : Nat) (count : Nat) : Option Decimal :=
  let position := leadingPosition bits + 1 - count
  let quotient := scaledQuotient bits position
  neighbour? tie bits position quotient.1 quotient.2

/-- Every digit of the double: halves are fifths of tens. -/
def exact (bits : Nat) : Decimal := ⟨Double.units bits * Nat.pow 5 1074, -1074⟩

/-- The shortest decimal of the positive finite double with these bits. Seventeen digits tell any
two doubles apart. -/
def shortest (tie : Tie) (bits : Nat) : Decimal :=
  ((List.range 17).findSome? fun i => withDigits tie bits (i + 1)).getD (exact bits)

/-- The same number without trailing zeros in its coefficient. -/
def stripZeros (d : Decimal) : Decimal :=
  if 0 < d.coefficient ∧ d.coefficient % 10 = 0 then
    stripZeros ⟨d.coefficient / 10, d.exponent + 1⟩
  else d
termination_by d.coefficient

/-- How the text of a number is laid out. -/
structure Layout where
  /-- Positions of the leading digit at which the number is written without an exponent. -/
  positional : Int → Bool
  /-- What follows the digits of a whole number written without an exponent. -/
  wholeMark : List Char
  /-- The choice between two equally near shortest decimals. -/
  tie : Tie

/-- The text of a positive decimal: its digits around a point, or one digit before the point and
an exponent with its sign. -/
def render (layout : Layout) (d : Decimal) : List Char :=
  let digits := Nat.toDigits 10 d.coefficient
  let lead : Int := d.exponent + digits.length - 1
  if layout.positional lead then
    if 0 ≤ d.exponent then
      digits ++ List.replicate d.exponent.toNat '0' ++ layout.wholeMark
    else if 0 ≤ lead then
      digits.take (lead + 1).toNat ++ '.' :: digits.drop (lead + 1).toNat
    else
      '0' :: '.' :: List.replicate (-lead - 1).toNat '0' ++ digits
  else
    let fraction := if digits.length ≤ 1 then [] else '.' :: digits.drop 1
    let sign := if lead < 0 then '-' else '+'
    digits.take 1 ++ fraction ++ 'e' :: sign :: Nat.toDigits 10 lead.natAbs

/-- The text of a finite double: a zero keeps its sign. -/
def Layout.text (layout : Layout) (x : Double) : List Char :=
  let bits := x.magnitude
  let sign := if x.isNegative then ['-'] else []
  if bits = 0 then sign ++ '0' :: layout.wholeMark
  else sign ++ render layout (shortest layout.tie bits).stripZeros

end Decimal

end ShippingRules
