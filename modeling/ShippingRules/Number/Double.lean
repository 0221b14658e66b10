/-!
Double-precision numbers and exact quotients. A number that is kept is its 64 bits, so that a NaN
keeps its form; arithmetic and comparison are those of `Float`. The bits of a non-negative double,
read as a natural number, give its value as a coefficient times a power of two, in units of the
least positive double 2^-1074. Rounding a quotient picks the nearest double, and of two equally
near ones that with the even coefficient; a quotient at or beyond the last midpoint is infinite.
-/
namespace ShippingRules

/-- A double-precision number by its bits. -/
structure Double where
  bits : UInt64
deriving DecidableEq

namespace Double

def toFloat (x : Double) : Float := Float.ofBits x.bits

def ofFloat (x : Float) : Double := ⟨x.toBits⟩

/-- The bits of positive infinity: every smaller natural number is a finite non-negative double. -/
def infinityBits : Nat := 2047 * Nat.pow 2 52

/-- The power of two that the coefficient is multiplied with. Subnormal numbers and the least
normal binade share the scale zero. -/
def scale (bits : Nat) : Nat := bits / Nat.pow 2 52 - 1

def coefficient (bits : Nat) : Nat := bits - scale bits * Nat.pow 2 52

/-- The value of a finite non-negative double as a multiple of 2^-1074. -/
def units (bits : Nat) : Nat := coefficient bits * Nat.pow 2 (scale bits)

/-- The bits of the magnitude: all but the sign. -/
def magnitude (x : Double) : Nat := x.bits.toNat % Nat.pow 2 63

def isNegative (x : Double) : Bool := Nat.pow 2 63 ≤ x.bits.toNat

def isFinite (x : Double) : Bool := x.magnitude < infinityBits

def isNaN (x : Double) : Bool := infinityBits < x.magnitude

/-- Equality as numbers compare: the two zeros are equal, and NaN equals nothing. -/
def same (a b : Double) : Bool := a.toFloat == b.toFloat

def ofMagnitude (negative : Bool) (bits : Nat) : Double :=
  ⟨UInt64.ofNat (bits + if negative then Nat.pow 2 63 else 0)⟩

def infinity (negative : Bool) : Double := ofMagnitude negative infinityBits

def zero : Double := ⟨0⟩

def nan : Double := ⟨0x7ff8000000000000⟩

/-- The integer nearest to a quotient; a half goes to the even neighbour. -/
def roundHalfEven (num den : Nat) : Nat :=
  let twice := 2 * (num % den)
  if twice < den ∨ twice = den ∧ num / den % 2 = 0 then num / den else num / den + 1

/-- The bits of the double nearest to `num / den`. A coefficient that rounds up to 2^53 carries
into the exponent, because bits count doubles. -/
def nearestBits (num den : Nat) : Nat :=
  let scaled := num * Nat.pow 2 1074
  let shift := (scaled / den).log2 - 52
  min (roundHalfEven scaled (den * Nat.pow 2 shift) + shift * Nat.pow 2 52) infinityBits

def nearest (negative : Bool) (num den : Nat) : Double :=
  ofMagnitude negative (nearestBits num den)

def ofNat (n : Nat) : Double := nearest false n 1

def ofInt (n : Int) : Double := nearest (n < 0) n.natAbs 1

end Double

end ShippingRules
