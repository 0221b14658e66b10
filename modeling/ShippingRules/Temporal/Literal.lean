import ShippingRules.Temporal.Basic

/-!
The literals of instants: `H:MM` or `H:MM:SS` with one or two digits of the hour, `YYYY-MM-DD`,
or a date, then one `T` or one space, then a time; spaces and tabs around a literal are ignored.
Each reader takes its literal from the front of the text and returns what remains.
-/
namespace ShippingRules.Temporal

def digit? (c : Char) : Option Nat := if c.isDigit then some (c.toNat - '0'.toNat) else none

def twoDigits : List Char → Option (Nat × List Char)
  | a :: b :: rest => do
    let tens ← digit? a
    let ones ← digit? b
    return (10 * tens + ones, rest)
  | _ => none

def fourDigits (s : List Char) : Option (Nat × List Char) := do
  let (century, rest) ← twoDigits s
  let (year, rest) ← twoDigits rest
  return (100 * century + year, rest)

/-- Two digits where there are two, else one. -/
def hourDigits (s : List Char) : Option (Nat × List Char) :=
  match twoDigits s with
  | some result => some result
  | none =>
    match s with
    | c :: rest => (digit? c).map (·, rest)
    | [] => none

/-- What follows the given character, if the text starts with it. -/
def after (c : Char) : List Char → Option (List Char)
  | [] => none
  | head :: rest => if head = c then some rest else none

/-- Seconds count as zero when no colon with two digits follows. -/
def seconds (s : List Char) : Nat × List Char :=
  ((after ':' s).bind twoDigits).getD (0, s)

def readTime (s : List Char) : Option (ClockTime × List Char) := do
  let (hour, rest) ← hourDigits s
  let rest ← after ':' rest
  let (minute, rest) ← twoDigits rest
  let (second, rest) := seconds rest
  let time ← ClockTime.of? hour minute second 0
  return (time, rest)

def readDate (s : List Char) : Option (Date × List Char) := do
  let (year, rest) ← fourDigits s
  let rest ← after '-' rest
  let (month, rest) ← twoDigits rest
  let rest ← after '-' rest
  let (dayOfMonth, rest) ← twoDigits rest
  let day ← Date.of? year month dayOfMonth
  return (day, rest)

def afterSeparator : List Char → Option (List Char)
  | [] => none
  | c :: rest => if c = 'T' ∨ c = ' ' then some rest else none

/-- A date with the time that follows it, or the date alone where no time does. -/
def readDated (s : List Char) : Option (Temporal × List Char) := do
  let (day, rest) ← readDate s
  match (afterSeparator rest).bind readTime with
  | some (time, rest) => return (.moment ⟨day, time⟩, rest)
  | none => return (.date day, rest)

def readBody (s : List Char) : Option (Temporal × List Char) :=
  match readDated s with
  | some result => some result
  | none => (readTime s).map fun (time, rest) => (.timeOfDay time, rest)

def isGap (c : Char) : Bool := c = ' ' ∨ c = '\t'

def parseChars? (s : List Char) : Option Temporal := do
  let (t, rest) ← readBody (s.dropWhile isGap)
  if rest.all isGap then return t else none

/-- The instant that a text names, if it is a literal of one. -/
def parse? (s : String) : Option Temporal := parseChars? s.toList

end ShippingRules.Temporal
