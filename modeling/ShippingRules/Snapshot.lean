import ShippingRules.Calendar
import ShippingRules.Dimension
import ShippingRules.Fields
import ShippingRules.IdSet
import ShippingRules.Number.Double

/-!
What rules are decided on: the facts of one rate calculation, taken once before any rule runs.
Totals that are not stated are derived from the cart lines; the platform ids "" and "0" stand for
"none" and are in no set.
-/
namespace ShippingRules

structure Address where
  city : String
  country : String
deriving DecidableEq, Inhabited

structure Customer where
  /-- Guests have none. -/
  id : Option String
  loggedIn : Bool
  billing : Address
  shipping : Address
deriving DecidableEq

def Customer.guest : Customer := ⟨none, false, ⟨"", ""⟩, ⟨"", ""⟩⟩

instance : Inhabited Customer := ⟨Customer.guest⟩

structure CartLine where
  productId : String
  quantity : Nat
  subtotal : Float
  /-- The weight of a single unit. -/
  unitWeight : Float
  shippingClass : Option String
  /-- Taxonomy and term id of each term that the product has. -/
  terms : List (String × String)

structure Snapshot where
  subtotal : Float
  itemCount : Nat
  totalWeight : Float
  coupons : IdSet
  /-- Coupon codes by platform id. -/
  couponCodes : Fields String
  products : IdSet
  terms : Fields IdSet
  shippingClasses : IdSet
  customer : Customer
  now : Moment

namespace Snapshot

/-- One statement about the cart or the caller. -/
inductive Fact where
  | line (line : CartLine)
  | subtotal (amount : Float)
  | totalWeight (weight : Float)
  | itemCount (count : Nat)
  | coupon (code : String)
  | couponCode (id code : String)
  | customer (customer : Customer)

def Fact.line? : Fact → Option CartLine
  | line l => some l
  | _ => none

def Fact.subtotal? : Fact → Option Float
  | subtotal x => some x
  | _ => none

def Fact.totalWeight? : Fact → Option Float
  | totalWeight x => some x
  | _ => none

def Fact.itemCount? : Fact → Option Nat
  | itemCount n => some n
  | _ => none

def Fact.coupon? : Fact → Option String
  | coupon code => some code
  | _ => none

def Fact.couponCode? : Fact → Option (String × String)
  | couponCode id code => some (id, code)
  | _ => none

def Fact.customer? : Fact → Option Customer
  | customer c => some c
  | _ => none

def totalQuantity : List CartLine → Nat
  | [] => 0
  | line :: rest => line.quantity + totalQuantity rest

/-- Platform ids of "0" or "" mean "none". -/
def isPresent (id : String) : Bool := id ≠ "" ∧ id ≠ "0"

/-- Add a term id to the set of its taxonomy. -/
def addTerm (terms : Fields IdSet) (term : String × String) : Fields IdSet :=
  terms.insert term.1 (((terms.get? term.1).getD .empty).insert term.2)

/-- The snapshot taken at `now` of facts stated in order. Of several statements about one total or
about the customer the last counts, and of several codes for one coupon id likewise. -/
def ofFacts (now : Moment) (facts : List Fact) : Snapshot :=
  let lines := facts.filterMap Fact.line?
  let summed (amount : CartLine → Float) :=
    lines.foldl (fun sum line => sum + amount line) Double.zero.toFloat
  { subtotal := (facts.filterMap Fact.subtotal?).getLast?.getD (summed CartLine.subtotal)
    itemCount := (facts.filterMap Fact.itemCount?).getLast?.getD (totalQuantity lines)
    totalWeight := (facts.filterMap Fact.totalWeight?).getLast?.getD
      (summed fun line => line.unitWeight * (Double.ofNat line.quantity).toFloat)
    coupons := IdSet.ofList (facts.filterMap Fact.coupon?)
    couponCodes := Fields.ofList (facts.filterMap Fact.couponCode?)
    products := IdSet.ofList ((lines.map CartLine.productId).filter isPresent)
    terms := (lines.flatMap CartLine.terms).foldl addTerm .empty
    shippingClasses := IdSet.ofList ((lines.filterMap CartLine.shippingClass).filter isPresent)
    customer := (facts.filterMap Fact.customer?).getLast?.getD Customer.guest
    now := now }

/-- Equality as numbers compare: a snapshot with a NaN total is not the same as itself. -/
def same (a b : Snapshot) : Bool :=
  a.subtotal == b.subtotal && a.itemCount == b.itemCount && a.totalWeight == b.totalWeight
    && a.coupons = b.coupons && a.couponCodes = b.couponCodes && a.products = b.products
    && a.terms = b.terms && a.shippingClasses = b.shippingClasses && a.customer = b.customer
    && a.now = b.now

def termIds (snapshot : Snapshot) (taxonomy : String) : IdSet :=
  (snapshot.terms.get? taxonomy).getD .empty

/-- The identifiers that a rule on the dimension inspects. -/
def dimension (snapshot : Snapshot) : Dimension → IdSet
  | .products => snapshot.products
  | .terms taxonomy => snapshot.termIds taxonomy
  | .shippingClasses => snapshot.shippingClasses

end Snapshot

end ShippingRules
