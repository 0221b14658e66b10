import ShippingRules.Engine.Basic

/-!
When a set of rules matches: it has rules and a mode in effect, and the mode's quantifier holds of
them. With a single rule both quantifiers say the same, so the mode that is reported there decides
nothing. An override may replace the verdict on a set with rules, but not that on a set without.
-/
namespace ShippingRules

theorem Outcome.isMatch_iff {outcome : Outcome} : outcome.isMatch = true ↔ outcome = .matched :=
  decide_eq_true_iff

theorem Verdict.matched_aggregate_all (matchedRules totalRules : Nat) :
    (aggregate (some .all) matchedRules totalRules).matched = true ↔
      totalRules ≠ 0 ∧ matchedRules = totalRules := by
  simp only [aggregate, Bool.and_eq_true, decide_eq_true_eq, beq_iff_eq]

theorem Verdict.matched_aggregate_any (matchedRules totalRules : Nat) :
    (aggregate (some .any) matchedRules totalRules).matched = true ↔
      totalRules ≠ 0 ∧ 0 < matchedRules := by
  simp only [aggregate, Bool.and_eq_true, decide_eq_true_eq, gt_iff_lt]

namespace Engine

variable {engine : Engine} {set : RuleSet} {snapshot : Snapshot}

theorem matched_ruleVerdict_all (hmode : set.effectiveMode = some .all) :
    (engine.ruleVerdict set snapshot).matched = true ↔
      set.rules ≠ [] ∧ ∀ rule ∈ set.rules, engine.evaluateRule snapshot rule = .matched := by
  rw [ruleVerdict, hmode, Verdict.matched_aggregate_all, RuleSet.size, List.countP_eq_length]
  simp only [Outcome.isMatch_iff, ne_eq, List.length_eq_zero_iff]

theorem matched_ruleVerdict_any (hmode : set.effectiveMode = some .any) :
    (engine.ruleVerdict set snapshot).matched = true ↔
      set.rules ≠ [] ∧ ∃ rule ∈ set.rules, engine.evaluateRule snapshot rule = .matched := by
  rw [ruleVerdict, hmode, Verdict.matched_aggregate_any, RuleSet.size, List.countP_pos_iff]
  simp only [Outcome.isMatch_iff, ne_eq, List.length_eq_zero_iff]

/-- Below two rules `all` is in effect, and it asks the same as `any`. -/
theorem forall_iff_exists_of_size {p : Rule → Prop} (hsize : set.size < 2)
    (hrules : set.rules ≠ []) : (∀ rule ∈ set.rules, p rule) ↔ ∃ rule ∈ set.rules, p rule := by
  obtain ⟨rule, hrule⟩ : ∃ rule, set.rules = [rule] := by
    apply List.length_eq_one_iff.mp
    have hpos := List.length_pos_iff.mpr hrules
    unfold RuleSet.size at hsize
    omega
  simp only [hrule, List.mem_singleton, forall_eq, exists_eq_left]

/-- A set matches exactly if its match type is a known mode, it has rules, and at least one of them
or every one of them matches, as the mode says. -/
theorem matched_ruleVerdict_iff :
    (engine.ruleVerdict set snapshot).matched = true ↔
      set.unrecognizedMode = none ∧ set.rules ≠ [] ∧
        if set.matchMode = .any then
          ∃ rule ∈ set.rules, engine.evaluateRule snapshot rule = .matched
        else ∀ rule ∈ set.rules, engine.evaluateRule snapshot rule = .matched := by
  cases hmode : set.unrecognizedMode with
  | some json =>
    have hnone : set.effectiveMode = none := by rw [RuleSet.effectiveMode, hmode]; rfl
    rw [ruleVerdict, hnone]
    exact iff_of_false Bool.false_ne_true nofun
  | none =>
    by_cases hsize : set.size < 2
    · have hall : set.effectiveMode = some .all := by
        rw [RuleSet.effectiveMode, hmode, if_neg nofun, if_pos hsize]
      rw [matched_ruleVerdict_all hall]
      by_cases hrules : set.rules = []
      · exact iff_of_false (fun h => h.1 hrules) fun h => h.2.1 hrules
      · split
        · rw [forall_iff_exists_of_size hsize hrules]
          simp only [true_and]
        · simp only [true_and]
    · have heffective : set.effectiveMode = some set.matchMode := by
        rw [RuleSet.effectiveMode, hmode, if_neg nofun, if_neg hsize]
      cases hmatch : set.matchMode with
      | all =>
        rw [hmatch] at heffective
        rw [matched_ruleVerdict_all heffective, if_neg nofun]
        simp only [true_and]
      | any =>
        rw [hmatch] at heffective
        rw [matched_ruleVerdict_any heffective, if_pos rfl]
        simp only [true_and]

theorem evaluate_of_override (snapshot : Snapshot) (h : engine.override = none) :
    engine.evaluate set snapshot = engine.ruleVerdict set snapshot := by
  rw [evaluate, applyOverride, h]

/-- No override is asked about a set without rules. -/
theorem evaluate_of_rules (snapshot : Snapshot) (h : set.rules = []) :
    engine.evaluate set snapshot = engine.ruleVerdict set snapshot := by
  have hempty : set.isEmpty = true := List.isEmpty_iff.mpr h
  unfold evaluate applyOverride
  split
  · rfl
  · rw [if_pos hempty]

theorem matched_ruleVerdict_of_rules (snapshot : Snapshot) (h : set.rules = []) :
    (engine.ruleVerdict set snapshot).matched = false :=
  Bool.eq_false_iff.mpr fun hmatched => (matched_ruleVerdict_iff.mp hmatched).2.1 h

end Engine

end ShippingRules
