import ShippingRules.Dimension
import ShippingRules.Operator

/-!
Rule types: the group they are shown in and at which place, the operators they allow, the parameter
their operator is stored under, and the cart dimension they inspect, if any.
-/
namespace ShippingRules

structure RuleType where
  id : String
  group : String
  /-- The place within the group; the lowest is first. -/
  priority : Nat
  /-- The legal operators; a type without any takes no operator. -/
  operators : List Operator
  operatorField : String
  dimension : Option Dimension
deriving DecidableEq, Repr

namespace RuleType

/-- Where the operator of a rule stands unless its type says otherwise. -/
def operatorKey : String := "operator"

def new (id group : String) (priority : Nat) (operators : List Operator) : RuleType :=
  ⟨id, group, priority, operators, operatorKey, none⟩

def withDimension (type : RuleType) (dimension : Dimension) : RuleType :=
  { type with dimension := some dimension }

/-- Whether a rule of this type may have the operator; `none` stands for an unknown name. -/
def accepts (type : RuleType) (op : Option Operator) : Bool :=
  type.operators.isEmpty || op.any type.operators.contains

end RuleType

end ShippingRules
