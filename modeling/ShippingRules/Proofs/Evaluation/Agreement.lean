import ShippingRules.Gate
import ShippingRules.Proofs.Normalization
import ShippingRules.Proofs.Verdict

/-!
The ways to evaluate a set agree. The report of a detailed evaluation has the plain verdict and the
outcome of each rule, and the gate hides on the plain verdict too. An override has the last word on
all of them alike, and no word on a set without rules.
-/
namespace ShippingRules

namespace Engine

variable (engine : Engine) (set : RuleSet) (snapshot : Snapshot)

theorem outcomes_evaluateDetailed :
    (engine.evaluateDetailed set snapshot).outcomes =
      set.rules.map fun rule => (rule.ruleType, engine.evaluateRule snapshot rule) := rfl

/-- The outcomes that are matches are counted where the rules that match are. -/
theorem verdict_evaluateDetailed :
    (engine.evaluateDetailed set snapshot).verdict = engine.evaluate set snapshot := by
  have hcount : (engine.evaluateDetailed set snapshot).outcomes.countP (·.2.isMatch) =
      set.rules.countP fun rule => (engine.evaluateRule snapshot rule).isMatch := by
    rw [outcomes_evaluateDetailed, List.countP_map]
    rfl
  have hlength : (engine.evaluateDetailed set snapshot).outcomes.length = set.size := by
    rw [outcomes_evaluateDetailed, List.length_map, RuleSet.size]
  rw [evaluate, ruleVerdict, ← hcount, ← hlength]
  rfl

theorem matchedTypes_evaluateDetailed :
    (engine.evaluateDetailed set snapshot).matchedTypes =
      (set.rules.filter fun rule => (engine.evaluateRule snapshot rule).isMatch).map
        (·.ruleType) := by
  rw [Report.matchedTypes, outcomes_evaluateDetailed, List.filter_map, List.map_map]
  rfl

theorem matchedRules_ruleVerdict :
    (engine.ruleVerdict set snapshot).matchedRules =
      set.rules.countP fun rule => (engine.evaluateRule snapshot rule).isMatch := rfl

theorem totalRules_ruleVerdict :
    (engine.ruleVerdict set snapshot).totalRules = set.size := rfl

variable {engine set}

/-- The gate's own test for rules changes nothing, since no set without rules matches. -/
theorem isHidden_decide_of_flag (h : set.hideUnconditionally = false) :
    (engine.decide set snapshot false).isHidden = (engine.evaluate set snapshot).matched := by
  unfold decide
  rw [if_neg Bool.false_ne_true, h, if_neg Bool.false_ne_true]
  by_cases hempty : set.isEmpty = true
  · have hrules : set.rules = [] := List.isEmpty_iff.mp hempty
    rw [if_pos hempty, evaluate_of_rules snapshot hrules,
      matched_ruleVerdict_of_rules snapshot hrules]
    rfl
  · rw [if_neg hempty]
    cases hmatched : (engine.evaluate set snapshot).matched with
    | true => rw [if_pos rfl]; rfl
    | false => rw [if_neg Bool.false_ne_true]; rfl

/-- Plain evaluation, detailed evaluation and the gate agree on every set, with any override. -/
theorem evaluateDetailed_agrees (engine : Engine) (set : RuleSet) (snapshot : Snapshot) :
    (engine.evaluateDetailed set snapshot).verdict = engine.evaluate set snapshot ∧
      (engine.evaluateDetailed set snapshot).outcomes =
        set.rules.map (fun rule => (rule.ruleType, engine.evaluateRule snapshot rule)) ∧
      (engine.evaluateDetailed set snapshot).matchedTypes =
        (set.rules.filter fun rule => engine.evaluateRule snapshot rule = .matched).map
          (·.ruleType) ∧
      (engine.override = none →
        (engine.evaluateDetailed set snapshot).matchedTypes.length =
            (engine.evaluate set snapshot).matchedRules ∧
          (engine.evaluate set snapshot).totalRules = set.rules.length) ∧
      (set.rules = [] →
        (∀ override, { engine with override := override }.evaluate set snapshot =
            engine.evaluate set snapshot) ∧
          (engine.evaluate set snapshot).matched = false ∧
          (engine.evaluate set snapshot).matchedRules = 0 ∧
          (engine.evaluate set snapshot).totalRules = 0) ∧
      (set.hideUnconditionally = false →
        (engine.decide set snapshot false).isHidden = (engine.evaluate set snapshot).matched) := by
  have htypes := engine.matchedTypes_evaluateDetailed set snapshot
  refine ⟨engine.verdict_evaluateDetailed set snapshot,
    engine.outcomes_evaluateDetailed set snapshot, ?_, ?_, ?_, isHidden_decide_of_flag snapshot⟩
  · exact htypes
  · intro h
    rw [htypes, List.length_map, ← List.countP_eq_length_filter, evaluate_of_override snapshot h]
    exact ⟨rfl, rfl⟩
  · intro h
    rw [evaluate_of_rules snapshot h]
    refine ⟨fun override => evaluate_of_rules snapshot h, matched_ruleVerdict_of_rules snapshot h,
      ?_, ?_⟩
    · rw [matchedRules_ruleVerdict, h, List.countP_nil]
    · rw [totalRules_ruleVerdict, RuleSet.size, h, List.length_nil]

/-- Every guest matches this rule. -/
def guestRule : Rule :=
  { Rule.new "user:logged_in" "" with params := .ofList [("logged_in", .text "no")] }

/-- A rule of a type that is not registered unless it is configured. -/
def tierRule : Rule := .new "loyalty:tier" "any_in_list"

/-- A set that matches by one of its two rules. -/
def guestOrTier : RuleSet :=
  { RuleSet.empty with rules := [guestRule, tierRule], matchMode := .any }

/-- What a guest with an empty cart brings. -/
def emptyCart : Snapshot := .ofFacts default []

/-- The engine that turns each verdict around. -/
def contrary (engine : Engine) : Engine :=
  { engine with override := some fun verdict _ => { verdict with matched := !verdict.matched } }

/-- The verdict on the two rules can be turned around, and that on no rules cannot. -/
theorem evaluateDetailed_agrees_guestOrTier :
    ∃ engine, build .standard = .ok engine ∧
      (engine.evaluateDetailed guestOrTier emptyCart).matchedTypes.length =
        (engine.evaluate guestOrTier emptyCart).matchedRules ∧
      (engine.evaluate guestOrTier emptyCart).matchedRules = 1 ∧
      (engine.decide guestOrTier emptyCart false).isHidden = true ∧
      (engine.contrary.decide guestOrTier emptyCart false).isHidden = false ∧
      (engine.contrary.evaluate .empty emptyCart).matched = false := by
  have hstandard : (build .standard).toOption.any (fun engine =>
      (engine.evaluate guestOrTier emptyCart).matched &&
        (engine.evaluate guestOrTier emptyCart).matchedRules == 1) = true := by
    decide +kernel
  obtain ⟨engine, hengine, hverdict⟩ := exists_standard_of_any hstandard
  have hoverride : engine.override = none := (eq_of_build hengine).2
  simp only [Bool.and_eq_true, beq_iff_eq] at hverdict
  obtain ⟨hmatched, hrules⟩ := hverdict
  have hcontrary : (engine.contrary.evaluate guestOrTier emptyCart).matched = false := by
    rw [evaluate_of_override emptyCart hoverride] at hmatched
    exact congrArg (!·) hmatched
  obtain ⟨-, -, -, hcount, -, hhide⟩ := evaluateDetailed_agrees engine guestOrTier emptyCart
  obtain ⟨-, -, -, -, -, hshow⟩ :=
    evaluateDetailed_agrees engine.contrary guestOrTier emptyCart
  obtain ⟨-, -, -, -, hempty, -⟩ := evaluateDetailed_agrees engine.contrary .empty emptyCart
  refine ⟨engine, hengine, (hcount hoverride).1, hrules, ?_, ?_, (hempty rfl).2.1⟩
  · rw [hhide rfl, hmatched]
  · rw [hshow rfl, hcontrary]

end Engine

end ShippingRules
