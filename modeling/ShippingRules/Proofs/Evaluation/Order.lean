import Mathlib.Data.List.FinRange
import ShippingRules.Proofs.Evaluation.Agreement
import ShippingRules.Proofs.Gate

/-!
The order of rules does not matter. Verdicts and decisions count rules and do not look at their
places, and the report on a set in another order has its outcomes in that order. The same goes for
the array of stored rules, because each of its elements is read and normalized on its own.
-/
namespace ShippingRules

namespace RuleSet

/-- Sets that differ in the order of their rules, and perhaps in what no decision looks at. -/
structure Shuffles (a b : RuleSet) : Prop where
  rules : a.rules.Perm b.rules
  matchMode : a.matchMode = b.matchMode
  unrecognizedMode : a.unrecognizedMode = b.unrecognizedMode
  hideUnconditionally : a.hideUnconditionally = b.hideUnconditionally

section Shuffles

variable {a b : RuleSet}

theorem Shuffles.size_eq (h : a.Shuffles b) : a.size = b.size := h.rules.length_eq

theorem Shuffles.isEmpty_eq (h : a.Shuffles b) : a.isEmpty = b.isEmpty := h.rules.isEmpty_eq

theorem Shuffles.effectiveMode_eq (h : a.Shuffles b) : a.effectiveMode = b.effectiveMode := by
  rw [effectiveMode, effectiveMode, h.unrecognizedMode, h.size_eq, h.matchMode]

theorem Shuffles.normalizeSet (h : a.Shuffles b) (engine : Engine) :
    (engine.normalizeSet a).Shuffles (engine.normalizeSet b) :=
  ⟨h.rules.map _, h.matchMode, h.unrecognizedMode, h.hideUnconditionally⟩

end Shuffles

/-- The set with the rule at each place taken from the place that the permutation names. -/
def permute (set : RuleSet) (places : Equiv.Perm (Fin set.size)) : RuleSet :=
  { set with rules := List.ofFn fun place => set.rules.get (places place) }

theorem shuffles_permute (set : RuleSet) (places : Equiv.Perm (Fin set.size)) :
    (set.permute places).Shuffles set := by
  refine ⟨?_, rfl, rfl, rfl⟩
  have hall : (List.ofFn set.rules.get).Perm set.rules := .of_eq (List.ofFn_get set.rules)
  exact (places.ofFn_comp_perm set.rules.get).trans hall

/-- Elements that are no objects are dropped wherever they stand. -/
theorem shuffles_ofFields {settings : Fields Json} {items shuffled : List Json}
    (hitems : settings.get? rulesKey = some (.array items)) (h : shuffled.Perm items) :
    (ofFields (settings.insert rulesKey (.array shuffled))).Shuffles (ofFields settings) := by
  have hread : ∀ l, readRules (some (.array l)) = l.filterMap Rule.ofJson? := by
    intro l
    simp only [readRules, Json.view_array]
  have hother : ∀ key, key ≠ rulesKey →
      (settings.insert rulesKey (.array shuffled)).get? key = settings.get? key := by
    intro key hkey
    rw [Fields.get?_insert, if_neg hkey]
  refine ⟨?_, ?_, ?_, ?_⟩
  · simp only [ofFields]
    rw [Fields.get?_insert, if_pos rfl, hitems, hread, hread]
    exact h.filterMap _
  · simp only [ofFields, hother matchTypeKey (by decide)]
  · simp only [ofFields, hother matchTypeKey (by decide)]
  · simp only [ofFields, flag, hother hideKey (by decide)]

end RuleSet

namespace Engine

section Shuffles

variable {engine : Engine} {a b : RuleSet} (snapshot : Snapshot)

theorem ruleVerdict_of_shuffles (h : a.Shuffles b) :
    engine.ruleVerdict a snapshot = engine.ruleVerdict b snapshot := by
  rw [ruleVerdict, ruleVerdict, h.effectiveMode_eq, h.size_eq, h.rules.countP_eq]

theorem evaluate_of_shuffles (hoverride : engine.override = none) (h : a.Shuffles b) :
    engine.evaluate a snapshot = engine.evaluate b snapshot := by
  rw [evaluate_of_override snapshot hoverride, evaluate_of_override snapshot hoverride,
    ruleVerdict_of_shuffles snapshot h]

theorem decide_of_shuffles (hoverride : engine.override = none) (h : a.Shuffles b)
    (privileged : Bool) :
    engine.decide a snapshot privileged = engine.decide b snapshot privileged := by
  rw [decide, decide, h.hideUnconditionally, h.isEmpty_eq,
    evaluate_of_shuffles snapshot hoverride h]

end Shuffles

theorem getElem?_outcomes_permute (engine : Engine) (set : RuleSet)
    (places : Equiv.Perm (Fin set.size)) (snapshot : Snapshot) (place : Fin set.size) :
    (engine.evaluateDetailed (set.permute places) snapshot).outcomes[place.val]? =
      (engine.evaluateDetailed set snapshot).outcomes[(places place).val]? := by
  have hmoved : (set.permute places).rules[place.val]? = set.rules[(places place).val]? := by
    rw [RuleSet.permute, List.getElem?_ofFn, dif_pos place.isLt]
    exact (List.getElem?_eq_getElem (places place).isLt).symm
  rw [outcomes_evaluateDetailed, outcomes_evaluateDetailed, List.getElem?_map, List.getElem?_map,
    hmoved]

/-- Without an override neither the order of the rules of a set nor that of the stored rules
changes a verdict or a decision, and the outcomes of the rules move with them. -/
theorem evaluate_permute {engine : Engine} (h : engine.override = none) (snapshot : Snapshot) :
    (∀ (set : RuleSet) (places : Equiv.Perm (Fin set.size)),
      engine.evaluate (set.permute places) snapshot = engine.evaluate set snapshot ∧
      (engine.evaluateDetailed (set.permute places) snapshot).verdict =
        (engine.evaluateDetailed set snapshot).verdict ∧
      (engine.evaluateDetailed (set.permute places) snapshot).outcomes.length = set.size ∧
      (∀ place : Fin set.size,
        (engine.evaluateDetailed (set.permute places) snapshot).outcomes[place.val]? =
          (engine.evaluateDetailed set snapshot).outcomes[(places place).val]?) ∧
      ∀ privileged, engine.decide (set.permute places) snapshot privileged =
        engine.decide set snapshot privileged) ∧
    ∀ {text settings items shuffled}, Json.parse? text = some (.object settings) →
      settings.get? RuleSet.rulesKey = some (.array items) → shuffled.Perm items →
      (∃ other, Json.parse? other =
        some (.object (settings.insert RuleSet.rulesKey (.array shuffled)))) ∧
      ∀ other, Json.parse? other =
          some (.object (settings.insert RuleSet.rulesKey (.array shuffled))) →
        ∀ privileged id otherId,
          (RatePass.mk engine snapshot privileged).decideOption ⟨otherId, some other⟩ =
            (RatePass.mk engine snapshot privileged).decideOption ⟨id, some text⟩ := by
  refine ⟨?_, ?_⟩
  · intro set places
    have hshuffles := set.shuffles_permute places
    have hverdict := evaluate_of_shuffles snapshot h hshuffles
    refine ⟨hverdict, ?_, ?_, engine.getElem?_outcomes_permute set places snapshot,
      decide_of_shuffles snapshot h hshuffles⟩
    · rw [verdict_evaluateDetailed, verdict_evaluateDetailed, hverdict]
    · rw [outcomes_evaluateDetailed, List.length_map, RuleSet.permute, List.length_ofFn]
  · intro text settings items shuffled hparse hitems hperm
    have hdepth := Json.nesting_le_of_parse? hparse
    have hshuffled := Json.nesting_array_le_of_perm hperm
      (Json.nesting_object_le_iff.mp hdepth _ _ hitems)
    have hlegible := Json.legible_of_parse? hparse
    have hmoved : ∀ n ∈ (Json.object (settings.insert RuleSet.rulesKey (.array shuffled))).numbers,
        n.Legible := by
      intro n hn
      rcases Json.mem_numbers_insert hn with hn | hn
      · have hstored := Json.mem_numbers_array_of_perm hperm hn
        exact hlegible n (Json.mem_numbers_object_iff.mpr ⟨_, _, hitems, hstored⟩)
      · exact hlegible n hn
    refine ⟨Json.exists_parse?_iff.mpr ⟨Json.nesting_insert_le hdepth hshuffled _, hmoved⟩, ?_⟩
    intro other hother privileged id otherId
    have hset := (RuleSet.shuffles_ofFields hitems hperm).normalizeSet engine
    rw [RatePass.decideOption_of_parse? _ rfl hother, RatePass.decideOption_of_parse? _ rfl hparse]
    exact decide_of_shuffles snapshot h hset privileged

/-- Two rules trade places, in a set and in the settings that it is stored as. -/
theorem evaluate_permute_guestOrTier :
    ∃ engine swapped, build .standard = .ok engine ∧ engine.override = none ∧
      Json.parse? swapped = some (.object (guestOrTier.toFields.insert RuleSet.rulesKey
        (.array (guestOrTier.rules.map Rule.toJson).reverse))) ∧
      engine.evaluate (guestOrTier.permute (Equiv.swap ⟨0, by decide⟩ ⟨1, by decide⟩)) emptyCart =
        engine.evaluate guestOrTier emptyCart ∧
      (RatePass.mk engine emptyCart false).decideOption ⟨"flat", some swapped⟩ =
        (RatePass.mk engine emptyCart false).decideOption
          ⟨"flat", some guestOrTier.toJson.render⟩ := by
  obtain ⟨engine, hengine⟩ := exists_standard
  have hoverride : engine.override = none := (eq_of_build hengine).2
  obtain ⟨hset, hstored⟩ := evaluate_permute hoverride emptyCart
  have hparse : Json.parse? guestOrTier.toJson.render = some (.object guestOrTier.toFields) :=
    Json.parse?_render (by decide +kernel) (by decide +kernel)
  obtain ⟨⟨swapped, hswapped⟩, hdecide⟩ :=
    hstored hparse guestOrTier.get?_toFields_rulesKey (List.reverse_perm _)
  exact ⟨engine, swapped, hengine, hoverride, hswapped, (hset guestOrTier _).1,
    hdecide swapped hswapped false "flat" "flat"⟩

end Engine

end ShippingRules
