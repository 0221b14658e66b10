/-!
The sets of cart identifiers that a membership rule can inspect, and the parameter that holds the
identifiers configured for each.
-/
namespace ShippingRules

/-- The terms of this taxonomy are the shipping classes of the cart lines. -/
def shippingClassTaxonomy : String := "product_shipping_class"

/-- The taxonomies that have rule types unless configured otherwise. -/
def defaultTaxonomies : List String := ["product_cat", "product_tag", shippingClassTaxonomy]

inductive Dimension where
  /-- Product ids of cart lines. -/
  | products
  /-- Ids of the terms that cart products have in a taxonomy. -/
  | terms (taxonomy : String)
  /-- Shipping class ids of cart lines. -/
  | shippingClasses
deriving DecidableEq, Repr

namespace Dimension

def ofTaxonomy (taxonomy : String) : Dimension :=
  if taxonomy = shippingClassTaxonomy then shippingClasses else terms taxonomy

def paramKey : Dimension → String
  | products => "products"
  | terms taxonomy => "cart_products_" ++ taxonomy
  | shippingClasses => "cart_products_" ++ shippingClassTaxonomy

end Dimension

end ShippingRules
