import ShippingRules.Proofs.Normalization

/-!
The normal form of a rule, told from the rule alone: the defaults it has, and where its operator
comes from. There is exactly one such form, normalizing gives it, and a normal form is its own.
-/
namespace ShippingRules

namespace Template

/-- A default under a key that the rule stores nothing under, as a parameter or otherwise. -/
def Fills (template : Template) (rule : Rule) (key : String) : Prop :=
  key ∈ template.defaults.keys ∧ key ∉ rule.params.keys ∧ key ∉ rule.extra.keys

/-- The type keeps its operator under a field of its own, and the rule has this text there, blanks
around it aside. -/
def Lifts (type : Option RuleType) (rule : Rule) (op : String) : Prop :=
  ∃ t, type = some t ∧ t.operatorField ≠ "operator" ∧ op ≠ "" ∧
    Text.trim (rule.text t.operatorField) = op

/-- One rule is the normal form of another under a template and a rule type. The operator is lifted
from the normal form itself, so it may come from a default. -/
structure NormalForm (template : Template) (type : Option RuleType)
    (rule normal : Rule) : Prop where
  ruleType : normal.ruleType = rule.ruleType
  extra : normal.extra = rule.extra
  stored : ∀ key value, rule.params.get? key = some value → normal.params.get? key = some value
  keys : ∀ key, key ∈ normal.params.keys ↔ key ∈ rule.params.keys ∨ template.Fills rule key
  filled : ∀ key, template.Fills rule key → normal.params.get? key = template.get? key
  lifted : ∀ op, Lifts type normal op → normal.operator = op
  kept : (∀ op, ¬Lifts type normal op) → normal.operator = rule.operator

variable {template : Template} {type : Option RuleType} {rule : Rule}

theorem get?_fill_of_fills {key : String} (h : template.Fills rule key) :
    (template.fill rule).params.get? key = template.get? key := by
  have hparam : rule.params.get? key = none := Fields.get?_eq_none_iff.mpr h.2.1
  have hextra : ¬rule.extra.contains key = true := fun hcon => h.2.2 (Fields.contains_iff.mp hcon)
  rw [get?_fill, hparam, Option.none_or, if_neg hextra]

theorem get?_fill_of_not_fills {key : String} (h : ¬template.Fills rule key) :
    (template.fill rule).params.get? key = rule.params.get? key := by
  rw [get?_fill]
  cases hparam : rule.params.get? key with
  | some value => rw [Option.some_or]
  | none =>
    rw [Option.none_or]
    split
    · rfl
    · rename_i hextra
      -- Nothing is stored under the key, so it is no key of a default either.
      apply Fields.get?_eq_none_iff.mpr
      intro hdefault
      exact h ⟨hdefault, Fields.get?_eq_none_iff.mp hparam,
        fun hstored => hextra (Fields.contains_iff.mpr hstored)⟩

theorem mem_keys_fill_iff {key : String} :
    key ∈ (template.fill rule).params.keys ↔ key ∈ rule.params.keys ∨ template.Fills rule key := by
  by_cases hfills : template.Fills rule key
  · refine iff_of_true ?_ (.inr hfills)
    rw [← Fields.contains_iff, Fields.contains, get?_fill_of_fills hfills]
    exact Fields.contains_iff.mpr hfills.1
  · rw [← Fields.contains_iff, Fields.contains, get?_fill_of_not_fills hfills, ← Fields.contains,
      Fields.contains_iff]
    exact (or_iff_left hfills).symm

theorem liftedOperator?_eq_some_iff {op : String} :
    liftedOperator? rule type = some op ↔ Lifts type rule op := by
  cases type with
  | none => exact iff_of_false (fun h => nomatch h) fun ⟨_, h, _⟩ => nomatch h
  | some t =>
    simp only [liftedOperator?, Option.bind_eq_bind, Option.bind_some]
    constructor
    · intro h
      split at h
      · cases h
      · rename_i hfield
        split at h
        · cases h
        · rename_i hop
          cases h
          exact ⟨t, rfl, hfield, hop, rfl⟩
    · rintro ⟨found, hfound, hfield, hop, rfl⟩
      cases hfound
      rw [if_neg (show t.operatorField ≠ RuleType.operatorKey from hfield), if_neg hop]

theorem params_normalize :
    (template.normalize rule type).params = (template.fill rule).params := rfl

/-- What is lifted is read from the parameters, which the normal form shares with the filled
rule. -/
theorem liftedOperator?_normalize :
    liftedOperator? (template.normalize rule type) type =
      liftedOperator? (template.fill rule) type :=
  liftedOperator?_congr (fun _ => rfl) type

theorem normalForm_normalize : template.NormalForm type rule (template.normalize rule type) where
  ruleType := ruleType_normalize template rule type
  extra := extra_normalize template rule type
  stored key value hstored := by
    rw [params_normalize, get?_fill, hstored, Option.some_or]
  keys _ := mem_keys_fill_iff
  filled _ := get?_fill_of_fills
  lifted op hlifts := by
    rw [← liftedOperator?_eq_some_iff, liftedOperator?_normalize] at hlifts
    rw [operator_normalize, hlifts, Option.getD_some]
  kept hkept := by
    cases hlifted : liftedOperator? (template.fill rule) type with
    | none => rw [operator_normalize, hlifted, Option.getD_none]
    | some op =>
      rw [← liftedOperator?_normalize, liftedOperator?_eq_some_iff] at hlifted
      exact absurd hlifted (hkept op)

/-- A rule has only one normal form. -/
theorem NormalForm.unique {normal other : Rule} (h : template.NormalForm type rule normal)
    (hother : template.NormalForm type rule other) : other = normal := by
  have hparams : other.params = normal.params := by
    apply Fields.ext_get?
    intro key
    by_cases hfills : template.Fills rule key
    · rw [h.filled key hfills, hother.filled key hfills]
    · cases hstored : rule.params.get? key with
      | some value => rw [h.stored key value hstored, hother.stored key value hstored]
      | none =>
        -- Neither form has a parameter that is not stored and not filled in.
        have hneither : ¬(key ∈ rule.params.keys ∨ template.Fills rule key) :=
          not_or.mpr ⟨Fields.get?_eq_none_iff.mp hstored, hfills⟩
        rw [Fields.get?_eq_none_iff.mpr fun hkey => hneither ((h.keys key).mp hkey),
          Fields.get?_eq_none_iff.mpr fun hkey => hneither ((hother.keys key).mp hkey)]
  have hlifts : ∀ op, Lifts type other op ↔ Lifts type normal op := by
    intro op
    rw [← liftedOperator?_eq_some_iff, ← liftedOperator?_eq_some_iff,
      liftedOperator?_congr (fun key => ?_) type]
    rw [Rule.text, Rule.text, Rule.get?, Rule.get?, hparams]
  apply Rule.eq_of_fields
  · rw [h.ruleType, hother.ruleType]
  · by_cases hlift : ∃ op, Lifts type normal op
    · obtain ⟨op, hop⟩ := hlift
      rw [h.lifted op hop, hother.lifted op ((hlifts op).mpr hop)]
    · have hnone : ∀ op, ¬Lifts type normal op := not_exists.mp hlift
      rw [h.kept hnone, hother.kept fun op hop => hnone op ((hlifts op).mp hop)]
  · exact hparams
  · rw [h.extra, hother.extra]

/-- Filling in defaults leaves none to be filled in. -/
theorem not_fills_normalize (key : String) :
    ¬template.Fills (template.normalize rule type) key := by
  rintro ⟨hdefault, hparam, hextra⟩
  rw [params_normalize, mem_keys_fill_iff, not_or] at hparam
  rw [extra_normalize] at hextra
  exact hparam.2 ⟨hdefault, hparam.1, hextra⟩

/-- A normal form satisfies of itself what makes it the normal form of a rule. -/
theorem NormalForm.self {normal : Rule} (h : template.NormalForm type rule normal) :
    template.NormalForm type normal normal where
  ruleType := rfl
  extra := rfl
  stored _ _ hstored := hstored
  keys key := by
    obtain rfl := normalForm_normalize.unique h
    exact (or_iff_left (not_fills_normalize key)).symm
  filled key hfills := by
    obtain rfl := normalForm_normalize.unique h
    exact absurd hfills (not_fills_normalize key)
  lifted := h.lifted
  kept _ := rfl

theorem normalize_normalize :
    template.normalize (template.normalize rule type) type = template.normalize rule type :=
  (normalForm_normalize.unique normalForm_normalize.self).symm

end Template

namespace Engine

theorem normalize_normalize (engine : Engine) (rule : Rule) :
    engine.normalize (engine.normalize rule) = engine.normalize rule := by
  have htype : (engine.normalize rule).ruleType = rule.ruleType := ruleType_normalize
  rw [normalize, htype]
  exact Template.normalize_normalize

theorem normalizeSet_normalizeSet (engine : Engine) (set : RuleSet) :
    engine.normalizeSet (engine.normalizeSet set) = engine.normalizeSet set := by
  simp only [normalizeSet, List.map_map, Function.comp_def, normalize_normalize]

end Engine

/-- Normalizing gives the one normal form of a rule, under any defaults and with or without a type,
and once is enough, for rules and for sets of them. -/
theorem Template.normalForm_iff_normalize (template : Template) (type : Option RuleType)
    (rule normal : Rule) (engine : Engine) (set : RuleSet) :
    (template.NormalForm type rule normal ↔ normal = template.normalize rule type) ∧
      template.normalize (template.normalize rule type) type = template.normalize rule type ∧
      engine.normalize (engine.normalize rule) = engine.normalize rule ∧
      engine.normalizeSet (engine.normalizeSet set) = engine.normalizeSet set := by
  refine ⟨⟨fun h => normalForm_normalize.unique h, ?_⟩, normalize_normalize,
    engine.normalize_normalize rule, engine.normalizeSet_normalizeSet set⟩
  rintro rfl
  exact normalForm_normalize

end ShippingRules
