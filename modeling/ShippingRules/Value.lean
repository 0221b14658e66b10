import ShippingRules.Json.Text
import ShippingRules.Number.Numeral
import ShippingRules.Temporal.Literal

/-!
Typed rule parameters and their readings. Thresholds and instants may still be texts in their
authored form; a reading interprets them without changing what is stored.
-/
namespace ShippingRules

inductive Value where
  | number (value : Double)
  | text (value : String)
  | list (items : List String)
  | temporal (value : Temporal)
  | bool (value : Bool)
deriving DecidableEq

namespace Value

/-- The numeric reading. A text counts as the numeral that it starts with, and what has no
numeric reading counts as zero. -/
def asNumber : Value → Double
  | number x => x
  | text s => (Numeral.leading? s).getD Double.zero
  | bool b => Double.ofNat b.toNat
  | list _ | temporal _ => Double.zero

/-- The identifiers of a list; other values are not promoted to lists. -/
def asList : Value → List String
  | list items => items
  | _ => []

def asText? : Value → Option String
  | text s => some s
  | _ => none

/-- The instant that a value holds or that its text is a literal of. -/
def asTemporal? : Value → Option Temporal
  | temporal t => some t
  | text s => Temporal.parse? s
  | _ => none

/-- The text of a list item: a text itself, or a number as it is written in JSON. -/
def itemText? (json : Json) : Option String :=
  match json.view with
  | .text s => some s
  | .number n => some n.render
  | _ => none

def itemTexts? : List Json → Option (List String)
  | [] => some []
  | item :: rest => do
    let head ← itemText? item
    let tail ← itemTexts? rest
    return head :: tail

/-- The parameter that a stored field is, if it is one: null, objects, and arrays with other items
than texts and numbers are not. -/
def ofJson? (json : Json) : Option Value :=
  match json.view with
  | .bool b => some (bool b)
  | .number n => some (number n.toDouble)
  | .text s => some (text s)
  | .array items => (itemTexts? items).map list
  | .null | .object _ => none

/-- The stored form. An instant is stored as its text. -/
def toJson : Value → Json
  | number x => Json.ofDouble x
  | text s => Json.text s
  | list items => Json.array (items.map Json.text)
  | temporal t => Json.text t.text
  | bool b => Json.bool b

/-- Numbers for a reader's eye never have an exponent, and whole numbers have no point. -/
def numberLayout : Decimal.Layout where
  positional _ := true
  wholeMark := []
  tie := .up

def describeNumber (x : Double) : String :=
  if x.isNaN then "NaN"
  else if !x.isFinite then if x.isNegative then "-inf" else "inf"
  else String.ofList (numberLayout.text x)

def describe : Value → String
  | number x => describeNumber x
  | text s => "\"" ++ s ++ "\""
  | list items => "[" ++ ", ".intercalate items ++ "]"
  | temporal t => t.text
  | bool b => if b then "true" else "false"

/-- Equality as numbers compare. -/
def same : Value → Value → Bool
  | number a, number b => a.same b
  | a, b => a = b

end Value

end ShippingRules
