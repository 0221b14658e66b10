import ShippingRules.Rule

/-!
The stored form of a rule: an object whose fields are its type, its operator, its parameters and
whatever else was stored. A field that is no parameter is kept as it was stored. Three rule types
were stored under other names; they are read as their current types, and the list that such a rule
keeps under its former field is also its parameter under the current one.
-/
namespace ShippingRules

namespace Rule

def typeKey : String := "type"

def operatorKey : String := "operator"

/-- Fields that name the type and the operator, and are never parameters. -/
def isHeader (key : String) : Bool := key = typeKey ∨ key = operatorKey

def textOf? (json : Json) : Option String :=
  match json.view with
  | .text s => some s
  | _ => none

def textField (fields : Fields Json) (key fallback : String) : String :=
  ((fields.get? key).bind textOf?).getD fallback

def paramOf? (key : String) (json : Json) : Option Value :=
  if isHeader key then none else Value.ofJson? json

/-- Whether a field is neither the type, nor the operator, nor a parameter. -/
def isExtra (key : String) (json : Json) : Bool :=
  if isHeader key then (textOf? json).isNone else (Value.ofJson? json).isNone

/-- The rule with these stored fields, before former types are brought up to date. -/
def ofFields (fields : Fields Json) : Rule where
  ruleType := textField fields typeKey defaultType
  operator := textField fields operatorKey defaultOperator
  params := fields.filterMap paramOf?
  extra := fields.filter isExtra

/-- A rule type under its former name and its current one, each with its field. -/
structure FormerType where
  former : String
  current : String
  formerKey : String
  currentKey : String
deriving DecidableEq

def formerTypes : List FormerType := [
  ⟨"cart_products:categories", "cart_products:product_cat",
    "categories", "cart_products_product_cat"⟩,
  ⟨"cart_products:tags", "cart_products:product_tag",
    "tags", "cart_products_product_tag"⟩,
  ⟨"cart_products:shipping_classes", "cart_products:product_shipping_class",
    "shipping_classes", "cart_products_product_shipping_class"⟩]

def formerType? (ruleType : String) : Option FormerType :=
  formerTypes.find? fun entry => entry.former == ruleType

/-- Give a rule of a former type its current type and parameter. -/
def update (rule : Rule) : Rule :=
  match formerType? rule.ruleType with
  | none => rule
  | some entry =>
    match rule.get? entry.formerKey with
    | some (.list items) =>
      { rule with
        ruleType := entry.current
        params := rule.params.insert entry.currentKey (.list items) }
    | _ => { rule with ruleType := entry.current }

/-- Stored rules that are no objects are skipped. -/
def ofJson? (json : Json) : Option Rule :=
  match json.view with
  | .object fields => some (ofFields fields).update
  | _ => none

/-- Under one key, a kept field is written before a parameter, and a parameter before the type and
the operator. -/
def toFields (rule : Rule) : Fields Json :=
  let header := Fields.ofList
    [(typeKey, Json.text rule.ruleType), (operatorKey, Json.text rule.operator)]
  (header.overlay (rule.params.map Value.toJson)).overlay rule.extra

def toJson (rule : Rule) : Json := Json.object rule.toFields

end Rule

end ShippingRules
