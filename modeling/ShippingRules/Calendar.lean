/-!
Calendar dates of the proleptic Gregorian calendar, times of day with nanoseconds, and moments:
a date with a time. All order by their parts from the greatest to the least. A leap second is held
as the second it follows with a nanosecond count of at least 10^9, which places it behind that
second and before the next one. Clocks show it as the next one, so after second 59 as second 60.
-/
namespace ShippingRules

def isLeapYear (year : Int) : Bool := year % 4 = 0 ∧ (year % 100 ≠ 0 ∨ year % 400 = 0)

def daysInMonth (year : Int) (month : Nat) : Nat :=
  match month with
  | 2 => if isLeapYear year then 29 else 28
  | 4 | 6 | 9 | 11 => 30
  | _ => 31

/-- A day that exists, within the years that are kept. -/
def Date.Exists (year : Int) (month day : Nat) : Prop :=
  -262143 ≤ year ∧ year ≤ 262142 ∧ 1 ≤ month ∧ month ≤ 12 ∧ 1 ≤ day ∧ day ≤ daysInMonth year month

instance (year : Int) (month day : Nat) : Decidable (Date.Exists year month day) := by
  unfold Date.Exists
  infer_instance

structure Date where
  year : Int
  month : Nat
  day : Nat
  existing : Date.Exists year month day
deriving DecidableEq

namespace Date

def of? (year : Int) (month day : Nat) : Option Date :=
  if h : Exists year month day then some ⟨year, month, day, h⟩ else none

instance : Inhabited Date := ⟨⟨1970, 1, 1, by decide⟩⟩

def compare (a b : Date) : Ordering :=
  (Ord.compare a.year b.year).then ((Ord.compare a.month b.month).then (Ord.compare a.day b.day))

/-- Days from the first of January to the first of the month. -/
def daysBeforeMonth (year : Int) : Nat → Nat
  | 0 | 1 => 0
  | month + 2 => daysBeforeMonth year (month + 1) + daysInMonth year (month + 1)

/-- Days since the last day of the year 0, so that 0001-01-01 has number 1. -/
def dayNumber (date : Date) : Int :=
  let elapsed := date.year - 1
  365 * elapsed + elapsed / 4 - elapsed / 100 + elapsed / 400
    + daysBeforeMonth date.year date.month + date.day

end Date

inductive Weekday where
  | monday
  | tuesday
  | wednesday
  | thursday
  | friday
  | saturday
  | sunday
deriving DecidableEq, Repr

namespace Weekday

def name : Weekday → String
  | monday => "monday"
  | tuesday => "tuesday"
  | wednesday => "wednesday"
  | thursday => "thursday"
  | friday => "friday"
  | saturday => "saturday"
  | sunday => "sunday"

end Weekday

/-- The first day of the year 1 was a Monday. -/
def Date.weekday (date : Date) : Weekday :=
  match (date.dayNumber % 7).toNat with
  | 1 => .monday
  | 2 => .tuesday
  | 3 => .wednesday
  | 4 => .thursday
  | 5 => .friday
  | 6 => .saturday
  | _ => .sunday

/-- A reading of the clock. Nanoseconds beyond a whole second belong to a leap second, which can
follow any second. -/
def ClockTime.Valid (hour minute second nano : Nat) : Prop :=
  hour < 24 ∧ minute < 60 ∧ second < 60 ∧ nano < 2000000000

instance (hour minute second nano : Nat) :
    Decidable (ClockTime.Valid hour minute second nano) := by
  unfold ClockTime.Valid
  infer_instance

structure ClockTime where
  hour : Nat
  minute : Nat
  second : Nat
  nano : Nat
  valid : ClockTime.Valid hour minute second nano
deriving DecidableEq

namespace ClockTime

/-- The reading with these parts. Made from its parts, a leap second has to follow second 59. -/
def of? (hour minute second nano : Nat) : Option ClockTime :=
  if h : Valid hour minute second nano ∧ (1000000000 ≤ nano → second = 59) then
    some ⟨hour, minute, second, nano, h.1⟩
  else none

def midnight : ClockTime := ⟨0, 0, 0, 0, by decide⟩

instance : Inhabited ClockTime := ⟨midnight⟩

def compare (a b : ClockTime) : Ordering :=
  (Ord.compare a.hour b.hour).then <| (Ord.compare a.minute b.minute).then <|
    (Ord.compare a.second b.second).then (Ord.compare a.nano b.nano)

/-- The second as it is shown: a leap second is shown as the second after the one it follows. -/
def shownSecond (time : ClockTime) : Nat :=
  if 1000000000 ≤ time.nano then time.second + 1 else time.second

end ClockTime

/-- A date and a time of day, without a time zone. -/
structure Moment where
  date : Date
  time : ClockTime
deriving DecidableEq, Inhabited

namespace Moment

def compare (a b : Moment) : Ordering :=
  (a.date.compare b.date).then (a.time.compare b.time)

def isBefore (a b : Moment) : Bool := a.compare b == .lt

end Moment

end ShippingRules
