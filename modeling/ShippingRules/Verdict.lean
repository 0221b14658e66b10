import ShippingRules.MatchMode

/-!
What comes of evaluating rules: the outcome of one rule, the verdict on a set of rules, and the
report that holds both.
-/
namespace ShippingRules

/-- How one rule fared. -/
inductive Outcome where
  | matched
  | notMatched
  /-- No such rule type is registered. -/
  | unknownType
  /-- The rule type is known, and nothing evaluates it. -/
  | noEvaluator
  /-- The rule type does not allow the operator. -/
  | illegalOperator
deriving DecidableEq, Repr

namespace Outcome

def isMatch (outcome : Outcome) : Bool := outcome = matched

def describe : Outcome → String
  | matched => "matched"
  | notMatched => "not matched"
  | unknownType => "unknown type"
  | noEvaluator => "no evaluator"
  | illegalOperator => "illegal operator"

end Outcome

structure Verdict where
  matched : Bool
  mode : MatchMode
  matchedRules : Nat
  totalRules : Nat
deriving DecidableEq, Repr

namespace Verdict

/-- The verdict on counted outcomes. No rules never match, nor do any rules without a mode in
effect, which is reported as `all`. -/
def aggregate (mode : Option MatchMode) (matchedRules totalRules : Nat) : Verdict :=
  let hit := match mode with
    | none => false
    | some .all => totalRules ≠ 0 && matchedRules == totalRules
    | some .any => totalRules ≠ 0 && matchedRules > 0
  ⟨hit, mode.getD .all, matchedRules, totalRules⟩

def describe (verdict : Verdict) : String :=
  let hit := if verdict.matched then "match" else "no match"
  s!"{hit} ({verdict.matchedRules}/{verdict.totalRules} rules, {verdict.mode.name})"

end Verdict

/-- The verdict with the type and outcome of every rule, in the order of the rules. -/
structure Report where
  verdict : Verdict
  outcomes : List (String × Outcome)
deriving DecidableEq, Repr

namespace Report

/-- The types of the rules that matched. -/
def matchedTypes (report : Report) : List String :=
  (report.outcomes.filter fun entry => entry.2.isMatch).map (·.1)

def describe (report : Report) : String :=
  "verdict: " ++ report.verdict.describe ++
    ", matched: [" ++ ", ".intercalate report.matchedTypes ++ "]"

end Report

end ShippingRules
