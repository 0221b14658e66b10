/-!
The comparison operators that a rule can be authored with, their stored names, and numeric
comparison. Which operators a rule type allows is recorded with the rule type.
-/
namespace ShippingRules

inductive Operator where
  | equalTo
  | lessThan
  | lessThanOrEqual
  | greaterThanOrEqual
  | greaterThan
  | between
  | notBetween
  | anyInList
  | allInList
  | notInList
  | before
  | after
deriving DecidableEq, Repr

namespace Operator

def name : Operator → String
  | equalTo => "equal_to"
  | lessThan => "less_than"
  | lessThanOrEqual => "less_than_or_equal"
  | greaterThanOrEqual => "greater_than_or_equal"
  | greaterThan => "greater_than"
  | between => "between"
  | notBetween => "not_between"
  | anyInList => "any_in_list"
  | allInList => "all_in_list"
  | notInList => "not_in_list"
  | before => "before"
  | after => "after"

def numeric : List Operator :=
  [equalTo, lessThan, lessThanOrEqual, greaterThanOrEqual, greaterThan, between, notBetween]

/-- For facts with a single value. -/
def membership : List Operator := [anyInList, notInList]

/-- For facts that are sets. -/
def setwise : List Operator := [anyInList, allInList, notInList]

def temporal : List Operator := [before, after, between, notBetween]

def all : List Operator :=
  numeric ++ setwise ++ [before, after]

theorem mem_all (op : Operator) : op ∈ all := by cases op <;> decide

def ofName? (name : String) : Option Operator := all.find? (fun op => op.name == name)

theorem name_injective {a b : Operator} (h : a.name = b.name) : a = b := by
  cases a <;> cases b <;> first | rfl | exact absurd h (by decide)

theorem ofName?_name (op : Operator) : ofName? op.name = some op := by cases op <;> rfl

/-- A name is read as the operator it is the name of. -/
theorem ofName?_eq_some_iff (name : String) (op : Operator) :
    ofName? name = some op ↔ op.name = name := by
  constructor
  · intro h
    simpa using List.find?_some h
  · rintro rfl
    exact ofName?_name op

/-- Compare against one threshold, or against the closed range from `low` to `high`. Operators
that compare no numbers have no answer. -/
def compare (op : Operator) (actual low high : Float) : Option Bool :=
  match op with
  | equalTo => some (actual == low)
  | lessThan => some (actual < low)
  | lessThanOrEqual => some (actual ≤ low)
  | greaterThanOrEqual => some (low ≤ actual)
  | greaterThan => some (low < actual)
  | between => some (low ≤ actual && actual ≤ high)
  | notBetween => some (actual < low || high < actual)
  | _ => none

/-- The error for a name that no operator has. -/
structure Unknown where
  name : String
deriving DecidableEq, Repr

def Unknown.message (error : Unknown) : String := s!"unknown operator '{error.name}'"

def parse (name : String) : Except Unknown Operator :=
  match ofName? name with
  | some op => .ok op
  | none => .error ⟨name⟩

end Operator

end ShippingRules
