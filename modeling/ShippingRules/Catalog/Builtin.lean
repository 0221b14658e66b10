import ShippingRules.Catalog

/-!
The rule types that every store has, and one more per product taxonomy. The types of taxonomies
come last and take the priorities from 21 on in the order of the taxonomies, so the taxonomies may
neither repeat nor include the reserved `products`.
-/
namespace ShippingRules.Catalog

def builtinGroups : List Group := [
  ⟨"cart", "Cart"⟩,
  ⟨"cart_products", "Cart Products"⟩,
  ⟨"date", "Date"⟩,
  ⟨"billing", "Billing"⟩,
  ⟨"shipping", "Shipping"⟩,
  ⟨"user", "Customer"⟩,
  ⟨"order_history", "Order History"⟩,
  ⟨"others", "Others"⟩]

/-- Rules on dates keep their operator under a field of their own. -/
def dateType (id : String) (priority : Nat) (operators : List Operator) : RuleType :=
  { RuleType.new id "date" priority operators with operatorField := "date_operator" }

def builtinTypes : List RuleType := [
  .new "cart:subtotal" "cart" 10 Operator.numeric,
  .new "cart:total_quantity" "cart" 15 Operator.numeric,
  .new "cart:total_weight" "cart" 20 Operator.numeric,
  .new "cart:coupons" "cart" 25 Operator.membership,
  (RuleType.new "cart_products:products" "cart_products" 5 Operator.setwise).withDimension
    .products,
  dateType "date:time" 5 Operator.temporal,
  dateType "date:date" 10 Operator.temporal,
  dateType "date:weekly_days" 15 Operator.membership,
  .new "billing:city" "billing" 10 Operator.membership,
  .new "billing:zipcode" "billing" 20 Operator.membership,
  .new "billing:state" "billing" 25 Operator.membership,
  .new "billing:country" "billing" 30 Operator.membership,
  .new "shipping:city" "shipping" 10 Operator.membership,
  .new "shipping:zipcode" "shipping" 15 Operator.membership,
  .new "shipping:state" "shipping" 20 Operator.membership,
  .new "shipping:country" "shipping" 25 Operator.membership,
  .new "user:users" "user" 10 Operator.membership,
  .new "user:roles" "user" 15 Operator.membership,
  .new "user:logged_in" "user" 20 [],
  .new "order_history:first_purchase" "order_history" 10 []]

theorem builtinGroups_distinct : (builtinGroups.map Group.name).Nodup := by decide

theorem builtinTypes_distinct : (builtinTypes.map RuleType.id).Nodup := by decide

/-- The catalog without any taxonomy. -/
def base : Catalog :=
  ⟨.ofList builtinTypes builtinTypes_distinct, ⟨builtinGroups, builtinGroups_distinct⟩⟩

def taxonomyTypeId (taxonomy : String) : String := "cart_products:" ++ taxonomy

def taxonomyType (taxonomy : String) (priority : Nat) : RuleType :=
  (RuleType.new (taxonomyTypeId taxonomy) "cart_products" priority Operator.setwise).withDimension
    (.ofTaxonomy taxonomy)

/-- One rule type per taxonomy, with ascending priorities. -/
def taxonomyTypes (priority : Nat) : List String → List RuleType
  | [] => []
  | taxonomy :: rest => taxonomyType taxonomy priority :: taxonomyTypes (priority + 1) rest

def firstTaxonomyPriority : Nat := 21

def builtin (taxonomies : List String) : Except RegistrationError Catalog :=
  base.registerAll (taxonomyTypes firstTaxonomyPriority taxonomies)

end ShippingRules.Catalog
