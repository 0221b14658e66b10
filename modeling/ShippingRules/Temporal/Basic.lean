import ShippingRules.Calendar

/-!
Reference instants as they are authored in date and time rules: a time of day, a date, or both.
An instant is pinned to a moment against the moment it is compared with. Its text leaves out
fractions of a second and writes the years 0 to 9999 with four digits, other years with a sign
and at least four digits.
-/
namespace ShippingRules

inductive Temporal where
  | timeOfDay (time : ClockTime)
  | date (date : Date)
  | moment (moment : Moment)
deriving DecidableEq

namespace Temporal

/-- A time of day falls on the day of `now`, and a date means its midnight. -/
def resolve (t : Temporal) (now : Moment) : Moment :=
  match t with
  | .timeOfDay t => ⟨now.date, t⟩
  | .date d => ⟨d, .midnight⟩
  | .moment m => m

/-- Decimal digits with zeros in front up to a least width. -/
def padded (width n : Nat) : List Char :=
  let digits := Nat.toDigits 10 n
  List.replicate (width - digits.length) '0' ++ digits

def yearText (year : Int) : List Char :=
  if 0 ≤ year ∧ year ≤ 9999 then padded 4 year.toNat
  else (if year < 0 then '-' else '+') :: padded 4 year.natAbs

def dateText (d : Date) : List Char :=
  yearText d.year ++ '-' :: padded 2 d.month ++ '-' :: padded 2 d.day

def timeText (t : ClockTime) : List Char :=
  padded 2 t.hour ++ ':' :: padded 2 t.minute ++ ':' :: padded 2 t.shownSecond

def toChars : Temporal → List Char
  | .timeOfDay t => timeText t
  | .date d => dateText d
  | .moment m => dateText m.date ++ 'T' :: timeText m.time

def text (t : Temporal) : String := String.ofList t.toChars

end Temporal

end ShippingRules
