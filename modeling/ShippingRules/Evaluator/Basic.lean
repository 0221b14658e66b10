import ShippingRules.IdSet
import ShippingRules.Rule
import ShippingRules.Snapshot
import ShippingRules.Text.LowerCase
import ShippingRules.Text.Blank
import ShippingRules.Text.Pieces

/-!
Evaluators decide whether one rule matches a snapshot. They read nothing but the rule and the
snapshot, and bad input is a non-match, never a failure. Each family of built-in rule types has
one: cart totals, coupons, instants, weekdays, users, the login state, cities, countries, and the
identifiers of a cart dimension.
-/
namespace ShippingRules

abbrev Evaluator := Rule → Snapshot → Bool

namespace Evaluator

/-- Membership of configured entries in what a snapshot holds. Repeated entries count once; every
configured entry, none, or at least one has to be present, and other operators never match. -/
def membership (op : Option Operator) (configured : List String) (present : String → Bool) : Bool :=
  let entries := (IdSet.ofList configured).ids
  let hits := (entries.filter present).length
  match op with
  | some .anyInList => 0 < hits
  | some .allInList => hits == entries.length
  | some .notInList => hits == 0
  | _ => false

inductive CartMetric where
  | subtotal
  | itemCount
  | totalWeight
deriving DecidableEq, Repr

def CartMetric.read (metric : CartMetric) (snapshot : Snapshot) : Float :=
  match metric with
  | subtotal => snapshot.subtotal
  | itemCount => (Double.ofNat snapshot.itemCount).toFloat
  | totalWeight => snapshot.totalWeight

/-- Compare a cart metric with `value`, or with the range from `value` to `value_two`. -/
def cartTotal (metric : CartMetric) : Evaluator := fun rule snapshot =>
  match rule.operator? with
  | none => false
  | some op =>
    (op.compare (metric.read snapshot) (rule.number "value").toFloat
      (rule.number "value_two").toFloat).getD false

/-- The code of a configured coupon: entries are platform ids, and an id without a known code
is taken as a code. -/
def couponCode (snapshot : Snapshot) (entry : String) : String :=
  (snapshot.couponCodes.get? entry).getD entry

/-- Membership of the applied coupons; a cart without coupons never matches. -/
def coupons : Evaluator := fun rule snapshot =>
  !snapshot.coupons.isEmpty &&
    membership rule.operator? ((rule.list "coupons").map (couponCode snapshot))
      snapshot.coupons.contains

/-- The parameters that hold the instants of a rule. -/
inductive InstantKind where
  | time
  | date
deriving DecidableEq, Repr

def InstantKind.firstKey : InstantKind → String
  | time => "time_one"
  | date => "date_one"

def InstantKind.secondKey : InstantKind → String
  | time => "time_two"
  | date => "date_two"

/-- The moment that a parameter means at `now`, if it has a temporal reading. -/
def momentOf? (rule : Rule) (key : String) (now : Moment) : Option Moment := do
  let value ← rule.get? key
  let t ← value.asTemporal?
  return t.resolve now

/-- Compare `now` with the instants of a rule. `before` and `after` are strict and read the first
instant alone; the range operators need both and include the ends in the range. -/
def instant (kind : InstantKind) : Evaluator := fun rule snapshot =>
  let now := snapshot.now
  match momentOf? rule kind.firstKey now with
  | none => false
  | some start =>
    match rule.operator? with
    | some .before => now.isBefore start
    | some .after => start.isBefore now
    | some .between =>
      match momentOf? rule kind.secondKey now with
      | none => false
      | some stop => !now.isBefore start && !stop.isBefore now
    | some .notBetween =>
      match momentOf? rule kind.secondKey now with
      | none => false
      | some stop => now.isBefore start || stop.isBefore now
    | _ => false

/-- Equality of texts but for the case of ASCII letters. -/
def sameAscii (a b : List Char) : Bool := Text.lowerAscii a == Text.lowerAscii b

/-- Membership of today's weekday, by its English name. -/
def weeklyDays : Evaluator := fun rule snapshot =>
  let today := snapshot.now.date.weekday.name.toList
  membership rule.operator? (rule.list "weekly_days")
    fun day => sameAscii (Text.trimChars day.toList) today

/-- Membership of the customer's id; a guest is in no list. -/
def users : Evaluator := fun rule snapshot =>
  membership rule.operator? (rule.list "users") fun user => snapshot.customer.id == some user

/-- The login state that a rule asks for: a flag, or the text `yes` or `no`. -/
def wantedLogin? (rule : Rule) : Option Bool :=
  match rule.get? "logged_in" with
  | some (.bool b) => some b
  | some (.text s) =>
    let trimmed := Text.trimChars s.toList
    if sameAscii trimmed "yes".toList then some true
    else if sameAscii trimmed "no".toList then some false
    else none
  | _ => none

def loggedIn : Evaluator := fun rule snapshot =>
  wantedLogin? rule == some snapshot.customer.loggedIn

inductive AddressKind where
  | billing
  | shipping
deriving DecidableEq, Repr

namespace AddressKind

def address (kind : AddressKind) (snapshot : Snapshot) : Address :=
  match kind with
  | billing => snapshot.customer.billing
  | shipping => snapshot.customer.shipping

def citiesKey : AddressKind → String
  | billing => "billing_cities"
  | shipping => "shipping_cities"

def countriesKey : AddressKind → String
  | billing => "billing_countries"
  | shipping => "shipping_countries"

end AddressKind

/-- The cities of a comma-separated field, in lower case; blank pieces are no city. -/
def configuredCities (field : String) : List String :=
  (((Text.pieces ',' (Text.lowerChars field.toList)).map Text.trimChars).filter (!·.isEmpty)).map
    String.ofList

/-- Membership of the customer's city in a comma-separated field, without regard to case and
surrounding blanks. -/
def city (kind : AddressKind) : Evaluator := fun rule snapshot =>
  let own := Text.lower (Text.trim (kind.address snapshot).city)
  membership rule.operator? (configuredCities (rule.text kind.citiesKey)) (· == own)

/-- Membership of the customer's country code. -/
def country (kind : AddressKind) : Evaluator := fun rule snapshot =>
  membership rule.operator? (rule.list kind.countriesKey) (· == (kind.address snapshot).country)

/-- Membership of the cart's identifiers in one dimension. -/
def cartItems (dimension : Dimension) : Evaluator := fun rule snapshot =>
  membership rule.operator? (rule.list dimension.paramKey) (snapshot.dimension dimension).contains

end Evaluator

end ShippingRules
