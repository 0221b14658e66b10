import ShippingRules.Rule
import ShippingRules.RuleType
import ShippingRules.Text.Blank

/-!
Parameter defaults, and the normal form of a rule under them. Normalizing fills in each default
whose key the rule does not store, as a parameter or otherwise, and lifts the operator of types
that keep it under a field of their own. What a rule stores is never replaced.
-/
namespace ShippingRules

structure Template where
  defaults : Fields Value

namespace Template

def empty : Template := ⟨.empty⟩

instance : Inhabited Template := ⟨empty⟩

def get? (template : Template) (key : String) : Option Value := template.defaults.get? key

/-- Add or replace a default. -/
def insert (template : Template) (key : String) (value : Value) : Template :=
  ⟨template.defaults.insert key value⟩

def insertAll (template : Template) (entries : List (String × Value)) : Template :=
  entries.foldl (fun acc entry => acc.insert entry.1 entry.2) template

/-- Parameters of the built-in rule types that are empty texts by default. -/
def textKeys : List String :=
  ["value", "value_two", "date_operator", "time_one", "time_two", "date_one", "date_two",
    "billing_cities", "shipping_cities"]

/-- Parameters of the built-in rule types that are empty lists by default. -/
def listKeys : List String :=
  ["coupons", "weekly_days", "users", "billing_countries", "shipping_countries"]

/-- The defaults of the built-in rule types, with an empty list of terms per taxonomy. -/
def builtin (taxonomies : List String) : Template :=
  empty.insertAll <|
    textKeys.map (·, .text "") ++ listKeys.map (·, .list []) ++
    [("cart_value_type", .text "in_cart"), ("logged_in", .text "no"),
      (Dimension.products.paramKey, .list [])] ++
    taxonomies.map fun taxonomy => ((Dimension.ofTaxonomy taxonomy).paramKey, .list [])

/-- Give a rule the default under a key that it does not store. -/
def fillOne (rule : Rule) (entry : String × Value) : Rule :=
  if rule.params.contains entry.1 || rule.extra.contains entry.1 then rule
  else { rule with params := rule.params.insert entry.1 entry.2 }

def fill (template : Template) (rule : Rule) : Rule :=
  template.defaults.entries.foldl fillOne rule

/-- The operator that a rule stores under the operator field of its type, if it is another field
than the usual one and holds a text that is not blank. -/
def liftedOperator? (rule : Rule) (type : Option RuleType) : Option String := do
  let type ← type
  if type.operatorField = RuleType.operatorKey then none
  else
    let stored := Text.trim (rule.text type.operatorField)
    if stored = "" then none else some stored

def normalize (template : Template) (rule : Rule) (type : Option RuleType) : Rule :=
  let filled := template.fill rule
  { filled with operator := (liftedOperator? filled type).getD filled.operator }

end Template

end ShippingRules
