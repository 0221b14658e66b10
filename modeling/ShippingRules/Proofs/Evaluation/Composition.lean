import ShippingRules.Proofs.Evaluation.Agreement

/-!
Matching is compositional. Whether a set matches depends on its rules and its mode alone: under
`all` two lists of rules match together if each does, under `any` if one does. A rule that cannot
be run fails, so under `any` it might as well be missing. None of this depends on how many rules
there are, although below two rules `all` is in effect whatever mode is stored.
-/
namespace ShippingRules

namespace Engine

/-- The rules whose outcome says why they were not run. -/
inductive CannotRun (engine : Engine) (rule : Rule) : Prop
  | unknownType (unknown : engine.catalog.lookup rule.ruleType = none)
  | noEvaluator {type : RuleType} (known : engine.catalog.lookup rule.ruleType = some type)
      (missing : engine.evaluators.get? type.id = none)
  | illegalOperator {type : RuleType} (known : engine.catalog.lookup rule.ruleType = some type)
      (illegal : type.accepts rule.operator? = false)

variable (engine : Engine) (snapshot : Snapshot)

/-- Whether a set of these rules under this mode matches. -/
def matchesRules (rules : List Rule) (mode : MatchMode) : Bool :=
  (engine.evaluate { RuleSet.empty with rules := rules, matchMode := mode } snapshot).matched

variable {engine snapshot}

/-- A rule that can be run matches or does not. -/
theorem cannotRun_iff {rule : Rule} :
    engine.CannotRun rule ↔ engine.evaluateRule snapshot rule ≠ .matched ∧
      engine.evaluateRule snapshot rule ≠ .notMatched := by
  unfold evaluateRule
  constructor
  · intro hrule
    cases hrule with
    | unknownType unknown =>
      rw [unknown]
      exact ⟨nofun, nofun⟩
    | noEvaluator known missing =>
      simp only [known, missing]
      exact ⟨nofun, nofun⟩
    | illegalOperator known illegal =>
      simp only [known, illegal]
      split
      · exact ⟨nofun, nofun⟩
      · exact ⟨nofun, nofun⟩
  · rintro ⟨hmatched, hfailed⟩
    cases htype : engine.catalog.lookup rule.ruleType with
    | none => exact .unknownType htype
    | some type =>
      cases hevaluator : engine.evaluators.get? type.id with
      | none => exact .noEvaluator htype hevaluator
      | some evaluator =>
        refine .illegalOperator htype (Bool.eq_false_iff.mpr fun hlegal => ?_)
        simp only [htype, hevaluator, hlegal] at hmatched hfailed
        cases hholds : evaluator rule snapshot with
        | true => exact hmatched (by rw [hholds]; rfl)
        | false => exact hfailed (by rw [hholds]; rfl)

section Matching

variable (h : engine.override = none)
include h

/-- The flags of a set and its other fields have no part in whether it matches. -/
theorem matched_evaluate {set : RuleSet} (hmode : set.unrecognizedMode = none) :
    (engine.evaluate set snapshot).matched =
      engine.matchesRules snapshot set.rules set.matchMode := by
  rw [matchesRules, evaluate_of_override snapshot h, evaluate_of_override snapshot h,
    Bool.eq_iff_iff, matched_ruleVerdict_iff, matched_ruleVerdict_iff, hmode]
  exact Iff.rfl

theorem matchesRules_all_iff {rules : List Rule} :
    engine.matchesRules snapshot rules .all = true ↔
      rules ≠ [] ∧ ∀ rule ∈ rules, engine.evaluateRule snapshot rule = .matched := by
  rw [matchesRules, evaluate_of_override snapshot h, matched_ruleVerdict_iff, if_neg nofun]
  exact and_iff_right rfl

theorem matchesRules_any_iff {rules : List Rule} :
    engine.matchesRules snapshot rules .any = true ↔
      ∃ rule ∈ rules, engine.evaluateRule snapshot rule = .matched := by
  rw [matchesRules, evaluate_of_override snapshot h, matched_ruleVerdict_iff, if_pos rfl]
  constructor
  · exact fun hmatched => hmatched.2.2
  · rintro ⟨rule, hrule, hmatched⟩
    exact ⟨rfl, List.ne_nil_of_mem hrule, rule, hrule, hmatched⟩

theorem matchesRules_append_all {a b : List Rule} (ha : a ≠ []) (hb : b ≠ []) :
    engine.matchesRules snapshot (a ++ b) .all =
      (engine.matchesRules snapshot a .all && engine.matchesRules snapshot b .all) := by
  rw [Bool.eq_iff_iff, Bool.and_eq_true, matchesRules_all_iff h, matchesRules_all_iff h,
    matchesRules_all_iff h, List.forall_mem_append]
  constructor
  · rintro ⟨-, hfirst, hsecond⟩
    exact ⟨⟨ha, hfirst⟩, hb, hsecond⟩
  · rintro ⟨⟨-, hfirst⟩, -, hsecond⟩
    exact ⟨List.append_ne_nil_of_left_ne_nil ha b, hfirst, hsecond⟩

theorem matchesRules_append_any (a b : List Rule) :
    engine.matchesRules snapshot (a ++ b) .any =
      (engine.matchesRules snapshot a .any || engine.matchesRules snapshot b .any) := by
  rw [Bool.eq_iff_iff, Bool.or_eq_true, matchesRules_any_iff h, matchesRules_any_iff h,
    matchesRules_any_iff h]
  simp only [List.mem_append, or_and_right, exists_or]

theorem matchesRules_singleton_iff (rule : Rule) (mode : MatchMode) :
    engine.matchesRules snapshot [rule] mode = true ↔
      engine.evaluateRule snapshot rule = .matched := by
  cases mode with
  | all =>
    rw [matchesRules_all_iff h, List.forall_mem_singleton]
    exact and_iff_right (List.cons_ne_nil rule [])
  | any =>
    rw [matchesRules_any_iff h]
    simp only [List.mem_singleton, exists_eq_left]

theorem matchesRules_any_of_all {rules : List Rule}
    (hall : engine.matchesRules snapshot rules .all = true) :
    engine.matchesRules snapshot rules .any = true := by
  obtain ⟨hrules, hmatched⟩ := (matchesRules_all_iff h).mp hall
  obtain ⟨rule, hrule⟩ := List.exists_mem_of_ne_nil rules hrules
  exact (matchesRules_any_iff h).mpr ⟨rule, hrule, hmatched rule hrule⟩

theorem matchesRules_insert_of_cannotRun {a b : List Rule} {rule : Rule}
    (hrule : engine.CannotRun rule) :
    engine.matchesRules snapshot (a ++ rule :: b) .any =
      engine.matchesRules snapshot (a ++ b) .any := by
  have hfails : engine.matchesRules snapshot [rule] .any = false :=
    Bool.eq_false_iff.mpr fun hmatched =>
      (cannotRun_iff.mp hrule).1 ((matchesRules_singleton_iff h rule .any).mp hmatched)
  calc engine.matchesRules snapshot (a ++ ([rule] ++ b)) .any
    _ = (engine.matchesRules snapshot a .any || engine.matchesRules snapshot b .any) := by
      rw [matchesRules_append_any h, matchesRules_append_any h, hfails, Bool.false_or]
    _ = engine.matchesRules snapshot (a ++ b) .any := (matchesRules_append_any h a b).symm

end Matching

/-- Without an override, sets with a known match type match by their rules and their mode, and
the rules of two sets put together match by what each set does. -/
theorem matched_evaluate_append {engine : Engine} (h : engine.override = none)
    (snapshot : Snapshot) :
    (∀ set, set.unrecognizedMode = none → (engine.evaluate set snapshot).matched =
      engine.matchesRules snapshot set.rules set.matchMode) ∧
    (∀ a b, a ≠ [] → b ≠ [] → engine.matchesRules snapshot (a ++ b) .all =
      (engine.matchesRules snapshot a .all && engine.matchesRules snapshot b .all)) ∧
    (∀ a b, engine.matchesRules snapshot (a ++ b) .any =
      (engine.matchesRules snapshot a .any || engine.matchesRules snapshot b .any)) ∧
    (∀ a, engine.matchesRules snapshot a .all = true →
      engine.matchesRules snapshot a .any = true) ∧
    (∀ rule mode, engine.matchesRules snapshot [rule] mode = true ↔
      engine.evaluateRule snapshot rule = .matched) ∧
    ∀ a b rule, engine.CannotRun rule → engine.matchesRules snapshot (a ++ rule :: b) .any =
      engine.matchesRules snapshot (a ++ b) .any := by
  refine ⟨fun set hmode => matched_evaluate h hmode, fun a b => matchesRules_append_all h,
    matchesRules_append_any h, fun a => matchesRules_any_of_all h, matchesRules_singleton_iff h,
    ?_⟩
  intro a b rule hrule
  exact matchesRules_insert_of_cannotRun h hrule

theorem matched_evaluate_append_guestOrTier :
    ∃ engine, build .standard = .ok engine ∧ engine.override = none ∧ engine.CannotRun tierRule ∧
      (engine.evaluate guestOrTier emptyCart).matched =
        engine.matchesRules emptyCart [guestRule, tierRule] .any ∧
      engine.matchesRules emptyCart [guestRule, tierRule] .all =
        (engine.matchesRules emptyCart [guestRule] .all &&
          engine.matchesRules emptyCart [tierRule] .all) ∧
      engine.matchesRules emptyCart [guestRule] .any = true ∧
      engine.matchesRules emptyCart [guestRule, tierRule] .any =
        engine.matchesRules emptyCart [guestRule] .any := by
  have hstandard : (build .standard).toOption.any (fun engine =>
      engine.matchesRules emptyCart [guestRule] .all &&
        engine.catalog.lookup tierRule.ruleType == none) = true := by
    decide +kernel
  obtain ⟨engine, hengine, hrules⟩ := exists_standard_of_any hstandard
  have hoverride : engine.override = none := (eq_of_build hengine).2
  simp only [Bool.and_eq_true, beq_iff_eq] at hrules
  obtain ⟨hguest, htier⟩ := hrules
  obtain ⟨hset, hall, -, hany, -, hinsert⟩ := matched_evaluate_append hoverride emptyCart
  exact ⟨engine, hengine, hoverride, .unknownType htier, hset guestOrTier rfl,
    hall [guestRule] [tierRule] (List.cons_ne_nil _ _) (List.cons_ne_nil _ _),
    hany [guestRule] hguest, hinsert [guestRule] [] tierRule (.unknownType htier)⟩

end Engine

end ShippingRules
