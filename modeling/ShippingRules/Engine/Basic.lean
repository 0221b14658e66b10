import ShippingRules.Catalog.Builtin
import ShippingRules.Evaluator.Table
import ShippingRules.RuleSet
import ShippingRules.Template
import ShippingRules.Verdict

/-!
The engine: a catalog of rule types, a table of evaluators, parameter defaults, and possibly a last
word on verdicts. It is built once from a configuration and does not change. Evaluating a rule
whose type is unknown, has no evaluator or does not allow the operator is a non-match of that rule
alone.
-/
namespace ShippingRules

/-- Replaces the verdict on a set; it is not asked about empty sets. -/
abbrev VerdictOverride := Verdict → RuleSet → Verdict

structure Engine where
  catalog : Catalog
  evaluators : EvaluatorTable
  template : Template
  override : Option VerdictOverride

namespace Engine

/-- What an engine is built from. -/
structure Config where
  taxonomies : List String
  ruleTypes : List RuleType
  evaluators : List Evaluator.Entry
  /-- Defaults beside the built-in ones. -/
  defaults : List (String × Value)
  override : Option VerdictOverride

def Config.standard : Config := ⟨defaultTaxonomies, [], [], [], none⟩

/-- The configured rule types come after the built-in ones, and the configured evaluators after
those of every type, so the first id that is taken or unknown is the error. -/
def build (config : Config) : Except RegistrationError Engine :=
  match Catalog.builtin config.taxonomies with
  | .error error => .error error
  | .ok builtin =>
    match builtin.registerAll config.ruleTypes with
    | .error error => .error error
    | .ok catalog =>
      match EvaluatorTable.builtin catalog with
      | .error error => .error error
      | .ok table =>
        match EvaluatorTable.registerAllFor catalog table config.evaluators with
        | .error error => .error error
        | .ok evaluators =>
          .ok ⟨catalog, evaluators,
            (Template.builtin config.taxonomies).insertAll config.defaults, config.override⟩

/-- Merge a rule with the defaults, as its type asks for. -/
def normalize (engine : Engine) (rule : Rule) : Rule :=
  engine.template.normalize rule (engine.catalog.lookup rule.ruleType)

def normalizeSet (engine : Engine) (set : RuleSet) : RuleSet :=
  { set with rules := set.rules.map engine.normalize }

/-- Run one rule as it stands. -/
def evaluateRule (engine : Engine) (snapshot : Snapshot) (rule : Rule) : Outcome :=
  match engine.catalog.lookup rule.ruleType with
  | none => .unknownType
  | some type =>
    match engine.evaluators.get? type.id with
    | none => .noEvaluator
    | some evaluator =>
      if !type.accepts rule.operator? then .illegalOperator
      else if evaluator rule snapshot then .matched
      else .notMatched

def applyOverride (engine : Engine) (verdict : Verdict) (set : RuleSet) : Verdict :=
  match engine.override with
  | none => verdict
  | some override => if set.isEmpty then verdict else override verdict set

/-- The verdict on a set before the override. -/
def ruleVerdict (engine : Engine) (set : RuleSet) (snapshot : Snapshot) : Verdict :=
  let matchedRules := set.rules.countP fun rule => (engine.evaluateRule snapshot rule).isMatch
  Verdict.aggregate set.effectiveMode matchedRules set.size

def evaluate (engine : Engine) (set : RuleSet) (snapshot : Snapshot) : Verdict :=
  engine.applyOverride (engine.ruleVerdict set snapshot) set

/-- The verdict with the outcome of every rule. -/
def evaluateDetailed (engine : Engine) (set : RuleSet) (snapshot : Snapshot) : Report :=
  let outcomes := set.rules.map fun rule => (rule.ruleType, engine.evaluateRule snapshot rule)
  let matchedRules := outcomes.countP fun entry => entry.2.isMatch
  let verdict := Verdict.aggregate set.effectiveMode matchedRules outcomes.length
  ⟨engine.applyOverride verdict set, outcomes⟩

def describe (engine : Engine) : String :=
  let override := if engine.override.isSome then "true" else "false"
  "Engine \x7b types: " ++ toString engine.catalog.types.size ++ ", evaluators: " ++
    engine.evaluators.describe ++ ", verdict_override: " ++ override ++ ", .. \x7d"

end Engine

end ShippingRules
