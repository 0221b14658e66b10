import ShippingRules.Number.Decimal

/-!
Numerals at the front of a text field, as in `12.5 kg`: a sign, digits around a point of which
one side may be empty, and an exponent. Reading takes the longest numeral that the text starts
with; what follows it has no influence. Blanks in front of the numeral are skipped.
-/
namespace ShippingRules

/-- A signed decimal numeral. -/
structure Numeral where
  negative : Bool
  whole : List Char
  fraction : List Char
  exponent : Int
deriving DecidableEq

namespace Numeral

/-- The digits of both sides of the point, with the exponent moved to the last of them. -/
def decimal (n : Numeral) : Decimal :=
  ⟨Nat.ofDigitChars 10 (n.whole ++ n.fraction) 0, n.exponent - n.fraction.length⟩

def toDouble (n : Numeral) : Double := n.decimal.toDouble n.negative

/-- The digits at the front of a text, and what follows them. -/
def digitRun (s : List Char) : List Char × List Char :=
  (s.takeWhile Char.isDigit, s.dropWhile Char.isDigit)

def readSign : List Char → Bool × List Char
  | '-' :: rest => (true, rest)
  | '+' :: rest => (false, rest)
  | s => (false, s)

/-- The digits before and after the point; at least one side has some. -/
def readMantissa? (s : List Char) : Option (List Char × List Char × List Char) :=
  let (whole, rest) := digitRun s
  match rest with
  | '.' :: more =>
    let (fraction, tail) := digitRun more
    if whole = [] ∧ fraction = [] then none else some (whole, fraction, tail)
  | _ => if whole = [] then none else some (whole, [], rest)

def signed (negative : Bool) (n : Nat) : Int := if negative then -(n : Int) else n

/-- An exponent mark counts only when digits follow it. -/
def readExponent (s : List Char) : Int × List Char :=
  match s with
  | [] => (0, s)
  | mark :: more =>
    if mark = 'e' ∨ mark = 'E' then
      let (negative, rest) := readSign more
      let (digits, tail) := digitRun rest
      if digits = [] then (0, s) else (signed negative (Nat.ofDigitChars 10 digits 0), tail)
    else (0, s)

def readFront? (s : List Char) : Option (Numeral × List Char) := do
  let (negative, rest) := readSign s
  let (whole, fraction, rest) ← readMantissa? rest
  let (exponent, rest) := readExponent rest
  return (⟨negative, whole, fraction, exponent⟩, rest)

def isBlank (c : Char) : Bool := c = ' ' ∨ c = '\t' ∨ c = '\r' ∨ c = '\n'

/-- The double nearest to the numeral that a text starts with. -/
def leading? (s : String) : Option Double :=
  (readFront? (s.toList.dropWhile isBlank)).map fun (n, _) => n.toDouble

end Numeral

end ShippingRules
