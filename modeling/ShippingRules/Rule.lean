import ShippingRules.Operator
import ShippingRules.Value

/-!
One authored condition: a rule type, an operator and parameters. Stored fields that are no
parameters are kept beside them.
-/
namespace ShippingRules

structure Rule where
  ruleType : String
  operator : String
  params : Fields Value
  extra : Fields Json

namespace Rule

/-- Assumed when a stored rule names no type. -/
def defaultType : String := "cart:subtotal"

/-- Assumed when a stored rule names no operator. -/
def defaultOperator : String := "greater_than"

def new (ruleType operator : String) : Rule := ⟨ruleType, operator, .empty, .empty⟩

instance : Inhabited Rule := ⟨new defaultType defaultOperator⟩

def operator? (rule : Rule) : Option Operator := Operator.ofName? rule.operator

theorem operator?_withOperator (rule : Rule) (op : Operator) :
    operator? { rule with operator := op.name } = some op := Operator.ofName?_name op

def get? (rule : Rule) (key : String) : Option Value := rule.params.get? key

/-- A missing parameter counts as zero. -/
def number (rule : Rule) (key : String) : Double :=
  match rule.get? key with
  | some value => value.asNumber
  | none => Double.zero

/-- A missing parameter counts as the empty list. -/
def list (rule : Rule) (key : String) : List String :=
  match rule.get? key with
  | some value => value.asList
  | none => []

/-- A parameter that is missing or no text counts as the empty text. -/
def text (rule : Rule) (key : String) : String :=
  ((rule.get? key).bind Value.asText?).getD ""

def same (a b : Rule) : Bool :=
  a.ruleType == b.ruleType && a.operator == b.operator && a.params.same Value.same b.params
    && a.extra.same Json.same b.extra

end Rule

end ShippingRules
