import ShippingRules.Directory
import ShippingRules.Roster
import ShippingRules.RuleType

/-!
The catalog of rule types and of the groups they are shown in. Types and groups are only added;
an id can be neither removed nor replaced. A registration gives its result beside the catalog as it
is afterwards. Within a group types are listed by priority, and types of equal priority in the order
they were registered.
-/
namespace ShippingRules

/-- Why a registration is refused. -/
inductive RegistrationError where
  | duplicateRuleType (id : String)
  | duplicateEvaluator (id : String)
  | unknownRuleType (id : String)
  | duplicateGroup (group : String)
deriving DecidableEq, Repr

def RegistrationError.message : RegistrationError → String
  | duplicateRuleType id => s!"rule type '{id}' is already registered"
  | duplicateEvaluator id => s!"an evaluator for rule type '{id}' is already registered"
  | unknownRuleType id => s!"cannot register an evaluator for unknown rule type '{id}'"
  | duplicateGroup group => s!"rule group '{group}' is already registered"

/-- A heading under which rule types are shown. -/
structure Group where
  name : String
  label : String
deriving DecidableEq, Repr

structure Catalog where
  types : Directory RuleType RuleType.id
  groups : Roster Group Group.name

namespace Catalog

def empty : Catalog := ⟨.empty, .empty⟩

instance : Inhabited Catalog := ⟨empty⟩

def register (catalog : Catalog) (type : RuleType) : Except RegistrationError Unit × Catalog :=
  match catalog.types.add? type with
  | some types => (.ok (), { catalog with types := types })
  | none => (.error (.duplicateRuleType type.id), catalog)

def registerGroup (catalog : Catalog) (group : Group) : Except RegistrationError Unit × Catalog :=
  match catalog.groups.add? group with
  | some groups => (.ok (), { catalog with groups := groups })
  | none => (.error (.duplicateGroup group.name), catalog)

/-- Register one type after the other, up to the first that is refused. -/
def registerAll (catalog : Catalog) : List RuleType → Except RegistrationError Catalog
  | [] => .ok catalog
  | type :: rest =>
    match catalog.register type with
    | (.ok (), grown) => grown.registerAll rest
    | (.error error, _) => .error error

def lookup (catalog : Catalog) (id : String) : Option RuleType := catalog.types.find? id

def listByGroup (catalog : Catalog) (group : String) : List RuleType :=
  (catalog.types.items.filter fun type => type.group == group).mergeSort
    fun a b => a.priority ≤ b.priority

end Catalog

end ShippingRules
