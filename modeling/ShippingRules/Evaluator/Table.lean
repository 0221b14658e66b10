import ShippingRules.Catalog
import ShippingRules.Evaluator.Basic
import ShippingRules.Text.Quoted

/-!
The table from rule-type ids to evaluators. An id has at most one evaluator, the first that was
registered. The built-in evaluators serve thirteen rule types by id and every rule type that
inspects a cart dimension.
-/
namespace ShippingRules

namespace Evaluator

/-- An evaluator with the id of the rule type it serves. -/
structure Entry where
  id : String
  evaluator : Evaluator

end Evaluator

structure EvaluatorTable where
  entries : Roster Evaluator.Entry Evaluator.Entry.id

namespace EvaluatorTable

def empty : EvaluatorTable := ⟨.empty⟩

instance : Inhabited EvaluatorTable := ⟨empty⟩

def size (table : EvaluatorTable) : Nat := table.entries.size

def contains (table : EvaluatorTable) (id : String) : Bool := table.entries.contains id

def get? (table : EvaluatorTable) (id : String) : Option Evaluator :=
  (table.entries.find? id).map Evaluator.Entry.evaluator

/-- Add an evaluator for an id, whether or not a rule type has it. -/
def register (table : EvaluatorTable) (entry : Evaluator.Entry) :
    Except RegistrationError Unit × EvaluatorTable :=
  match table.entries.add? entry with
  | some entries => (.ok (), ⟨entries⟩)
  | none => (.error (.duplicateEvaluator entry.id), table)

/-- Add an evaluator for a rule type of the catalog. -/
def registerFor (catalog : Catalog) (table : EvaluatorTable) (entry : Evaluator.Entry) :
    Except RegistrationError Unit × EvaluatorTable :=
  match catalog.lookup entry.id with
  | none => (.error (.unknownRuleType entry.id), table)
  | some _ => table.register entry

/-- Register one evaluator after the other, up to the first that is refused. -/
def registerAllFor (catalog : Catalog) (table : EvaluatorTable) :
    List Evaluator.Entry → Except RegistrationError EvaluatorTable
  | [] => .ok table
  | entry :: rest =>
    match registerFor catalog table entry with
    | (.ok (), grown) => registerAllFor catalog grown rest
    | (.error error, _) => .error error

/-- The evaluators that serve a rule type by its id. -/
def builtinEntries : List Evaluator.Entry := [
  ⟨"cart:subtotal", Evaluator.cartTotal .subtotal⟩,
  ⟨"cart:total_quantity", Evaluator.cartTotal .itemCount⟩,
  ⟨"cart:total_weight", Evaluator.cartTotal .totalWeight⟩,
  ⟨"cart:coupons", Evaluator.coupons⟩,
  ⟨"date:time", Evaluator.instant .time⟩,
  ⟨"date:date", Evaluator.instant .date⟩,
  ⟨"date:weekly_days", Evaluator.weeklyDays⟩,
  ⟨"user:users", Evaluator.users⟩,
  ⟨"user:logged_in", Evaluator.loggedIn⟩,
  ⟨"billing:city", Evaluator.city .billing⟩,
  ⟨"shipping:city", Evaluator.city .shipping⟩,
  ⟨"billing:country", Evaluator.country .billing⟩,
  ⟨"shipping:country", Evaluator.country .shipping⟩]

/-- The evaluator of a rule type that inspects a cart dimension. -/
def dimensionEntry? (type : RuleType) : Option Evaluator.Entry :=
  type.dimension.map fun dimension => ⟨type.id, Evaluator.cartItems dimension⟩

def builtin (catalog : Catalog) : Except RegistrationError EvaluatorTable :=
  registerAllFor catalog empty (builtinEntries ++ catalog.types.items.filterMap dimensionEntry?)

/-- The ids with an evaluator, sorted and quoted. -/
def describe (table : EvaluatorTable) : String :=
  let ids := (IdSet.ofList table.entries.keys).ids.map Text.showQuoted
  "EvaluatorRegistry \x7b types: [" ++ ", ".intercalate ids ++ "] \x7d"

end EvaluatorTable

end ShippingRules
