import ShippingRules.Engine.Loading
import ShippingRules.Proofs.Json.Legible
import ShippingRules.Proofs.Normalization
import ShippingRules.Proofs.Settings.Record

/-!
Saving a loaded rule set and loading it again. What a loaded set is written as nests no deeper than
what it was read from, so it is read back if its numbers are; and reading and normalizing it give
the same set, but for a list that a former type had turned into a parameter beside a kept field of
its current key.
-/
namespace ShippingRules

section Nesting

theorem Value.nesting_toJson_le (value : Value) : value.toJson.nesting ≤ 1 := by
  cases value with
  | number x =>
    rw [toJson, Json.ofDouble]
    split
    · exact Nat.zero_le 1
    · exact Nat.zero_le 1
  | list items =>
    apply Json.nesting_array_le_iff.mpr
    intro item hitem
    obtain ⟨s, -, rfl⟩ := List.mem_map.mp hitem
    exact Nat.le_refl 0
  | _ => exact Nat.zero_le 1

/-- A bound on the depth of the kept fields of a rule. -/
def Rule.Nests (depth : Nat) (rule : Rule) : Prop :=
  ∀ key json, rule.extra.get? key = some json → json.nesting ≤ depth

theorem Rule.nesting_toJson_le {depth : Nat} {rule : Rule} (h : rule.Nests (depth + 1)) :
    rule.toJson.nesting ≤ depth + 2 := by
  apply Json.nesting_object_le_iff.mpr
  intro key json hget
  cases hextra : rule.extra.get? key with
  | some kept =>
    rw [get?_toFields_of_extra hextra] at hget
    cases hget
    exact h key _ hextra
  | none =>
    cases hparam : rule.params.get? key with
    | some value =>
      rw [get?_toFields_of_param hextra hparam] at hget
      cases hget
      have hvalue := value.nesting_toJson_le
      omega
    | none =>
      obtain ⟨-, s, rfl⟩ := isHeader_of_get?_toFields hextra hparam hget
      exact Nat.zero_le _

/-- Bounds on the depth of everything in a set that was kept as it was stored. -/
structure RuleSet.Nests (depth : Nat) (set : RuleSet) : Prop where
  mode : ∀ {json}, set.unrecognizedMode = some json → json.nesting ≤ depth + 3
  extra : ∀ {key json}, set.extra.get? key = some json → json.nesting ≤ depth + 3
  rules : ∀ rule ∈ set.rules, rule.Nests (depth + 1)

namespace RuleSet

theorem nesting_toJson_le {depth : Nat} {set : RuleSet} (h : set.Nests depth) :
    set.toJson.nesting ≤ depth + 4 := by
  have hmode : set.writtenMode.nesting ≤ depth + 3 := by
    unfold writtenMode
    cases hstored : set.unrecognizedMode with
    | none => exact Nat.zero_le _
    | some json => exact h.mode hstored
  have hrules : (Json.array (set.rules.map Rule.toJson)).nesting ≤ depth + 3 := by
    apply Json.nesting_array_le_iff.mpr
    intro item hitem
    obtain ⟨rule, hrule, rfl⟩ := List.mem_map.mp hitem
    exact Rule.nesting_toJson_le (h.rules rule hrule)
  apply Json.nesting_object_le_iff.mpr
  intro key json hget
  rw [get?_toFields] at hget
  split at hget
  · cases hget
    exact hrules
  split at hget
  · cases hget
    exact hmode
  split at hget
  · cases hget
    exact Nat.zero_le _
  split at hget
  · cases hget
    exact Nat.zero_le _
  · exact h.extra hget

theorem nests_ofFields {depth : Nat} {fields : Fields Json}
    (h : (Json.object fields).nesting ≤ depth + 4) : (ofFields fields).Nests depth := by
  have hfield : ∀ {key json}, fields.get? key = some json → json.nesting ≤ depth + 3 :=
    fun hget => Json.nesting_object_le_iff.mp h _ _ hget
  refine ⟨?_, ?_, ?_⟩
  · intro json hmode
    simp only [ofFields] at hmode
    unfold readMode at hmode
    split at hmode
    · cases hmode
    · rename_i hget
      split at hmode
      · cases hmode
      · cases hmode
        exact hfield hget
  · intro key json hget
    rw [ofFields, Fields.get?_filter, Option.filter_eq_some_iff] at hget
    exact hfield hget.1
  · intro rule hrule
    obtain ⟨items, stored, hrules, hitem, rfl⟩ := mem_readRules_iff.mp hrule
    have hitems := Json.nesting_array_le_iff.mp (hfield hrules) _ hitem
    intro key json hget
    rw [Rule.extra_update] at hget
    exact Json.nesting_object_le_iff.mp hitems _ _ ((Rule.extra_ofFields stored).mp hget).1

end RuleSet

theorem RuleSet.Nests.normalizeSet {depth : Nat} {set : RuleSet} (h : set.Nests depth)
    (engine : Engine) : (engine.normalizeSet set).Nests depth := by
  refine ⟨h.mode, h.extra, ?_⟩
  intro rule hrule key json hget
  obtain ⟨stored, hstored, rfl⟩ := List.mem_map.mp hrule
  rw [Engine.extra_normalize] at hget
  exact h.rules stored hstored key json hget

end Nesting

namespace RuleSet

theorem parse_eq_ok_iff {text : String} {set : RuleSet} :
    parse text = .ok set ↔
      ∃ fields, Json.parse? text = some (.object fields) ∧ set = ofFields fields := by
  unfold parse
  constructor
  · intro h
    split at h
    · rename_i json hparse
      obtain ⟨fields, rfl, hset⟩ := exists_fields_of_ofJson h
      exact ⟨fields, hparse, hset⟩
    · cases h
  · rintro ⟨fields, hparse, rfl⟩
    rw [hparse]
    simp only [ofJson, Json.view_object]

theorem parse_render {json back : Json} (h : json.reread = some back) :
    parse json.render = ofJson back := by
  rw [Json.reread] at h
  rw [parse, h]

/-- The set without the parameters that share their key with a kept field. -/
def unshadowed (set : RuleSet) : RuleSet := { set with rules := set.rules.map Rule.unshadowed }

/-- The stored settings with a rule that loses its list. -/
def LosesList (fields : Fields Json) : Prop :=
  ∃ items rule, fields.get? rulesKey = some (.array items) ∧ Json.object rule ∈ items ∧
    Rule.LosesList rule

end RuleSet

namespace Engine

variable {engine : Engine}

theorem loadSettings_eq_ok_iff {text : String} {set : RuleSet} :
    engine.loadSettings text = .ok set ↔ ∃ fields, Json.parse? text = some (.object fields) ∧
      set = engine.normalizeSet (RuleSet.ofFields fields) := by
  unfold loadSettings
  constructor
  · intro h
    cases hparse : RuleSet.parse text with
    | error error =>
      rw [hparse] at h
      cases h
    | ok read =>
      obtain ⟨fields, hfields, rfl⟩ := RuleSet.parse_eq_ok_iff.mp hparse
      rw [hparse] at h
      cases h
      exact ⟨fields, hfields, rfl⟩
  · rintro ⟨fields, hfields, rfl⟩
    rw [RuleSet.parse_eq_ok_iff.mpr ⟨fields, hfields, rfl⟩]
    rfl

/-- What a loaded rule is once it has been saved and loaded again. -/
theorem normalize_reread_update (fields : Fields Json) :
    engine.normalize (engine.normalize (Rule.ofFields fields).update).reread =
      (engine.normalize (Rule.ofFields fields).update).unshadowed :=
  normalize_reread (Rule.readOperator_update_ofFields fields) Rule.shadowsLists_update_ofFields

theorem filed_of_mem_rules (htemplate : engine.template.Storable) {fields : Fields Json}
    {rule : Rule} (h : rule ∈ (engine.normalizeSet (RuleSet.ofFields fields)).rules) :
    rule.Filed := by
  obtain ⟨stored, hstored, rfl⟩ := List.mem_map.mp h
  exact filed_normalize htemplate (RuleSet.settled_of_mem_readRules hstored).filed

/-- Saving and loading again only misses the shadowed parameters. -/
theorem loadSettings_render_toJson (htemplate : engine.template.Storable) {text : String}
    {set : RuleSet} (h : engine.loadSettings text = .ok set)
    (hnumbers : set.toJson.NumbersReadBack) :
    engine.loadSettings set.toJson.render = .ok set.unshadowed := by
  obtain ⟨fields, hparse, rfl⟩ := loadSettings_eq_ok_iff.mp h
  have hdepth : (engine.normalizeSet (RuleSet.ofFields fields)).toJson.nesting ≤ 127 :=
    RuleSet.nesting_toJson_le
      ((RuleSet.nests_ofFields (Json.nesting_le_of_parse? hparse)).normalizeSet engine)
  have hfiled : (engine.normalizeSet (RuleSet.ofFields fields)).Filed :=
    ⟨(RuleSet.filed_ofFields fields).mode, (RuleSet.filed_ofFields fields).extra⟩
  have hread := hfiled.ofJson_toJson fun rule hrule => filed_of_mem_rules htemplate hrule
  have hrules : ((engine.normalizeSet (RuleSet.ofFields fields)).rules.map Rule.reread).map
      engine.normalize =
        (engine.normalizeSet (RuleSet.ofFields fields)).rules.map Rule.unshadowed := by
    simp only [normalizeSet, List.map_map]
    apply List.map_congr_left
    intro rule hrule
    obtain ⟨items, stored, -, -, rfl⟩ := RuleSet.mem_readRules_iff.mp hrule
    exact normalize_reread_update stored
  rw [loadSettings, RuleSet.parse_render (hnumbers.reread_eq hdepth), hread]
  refine congrArg Except.ok ?_
  unfold RuleSet.unshadowed
  rw [← hrules]
  rfl

theorem keysApart_normalize_iff {rule : Rule} :
    (engine.normalize rule).KeysApart ↔ rule.KeysApart := by
  unfold Rule.KeysApart
  rw [extra_normalize]
  apply forall_congr'
  intro key
  cases hextra : rule.extra.get? key with
  | none => exact iff_of_true (.inr rfl) (.inr rfl)
  | some json =>
    rw [get?_params_normalize_of_extra (Fields.contains_iff_exists.mpr ⟨json, hextra⟩)]

theorem unshadowed_eq {fields : Fields Json} (h : ¬RuleSet.LosesList fields) :
    (engine.normalizeSet (RuleSet.ofFields fields)).unshadowed =
      engine.normalizeSet (RuleSet.ofFields fields) := by
  have hrules : (engine.normalizeSet (RuleSet.ofFields fields)).rules.map Rule.unshadowed =
      (engine.normalizeSet (RuleSet.ofFields fields)).rules := by
    simp only [normalizeSet, List.map_map]
    apply List.map_congr_left
    intro rule hrule
    obtain ⟨items, stored, hitems, hitem, rfl⟩ := RuleSet.mem_readRules_iff.mp hrule
    have hkept : ¬Rule.LosesList stored := fun hloses => h ⟨items, stored, hitems, hitem, hloses⟩
    have hapart := Rule.keysApart_update_ofFields_iff.mpr hkept
    exact (keysApart_normalize_iff.mpr hapart).unshadowed_eq
  rw [RuleSet.unshadowed, hrules]

theorem not_losesList_of_same {fields : Fields Json}
    (h : (engine.normalizeSet (RuleSet.ofFields fields)).unshadowed.same
      (engine.normalizeSet (RuleSet.ofFields fields)) = true) : ¬RuleSet.LosesList fields := by
  rintro ⟨items, stored, hitems, hitem, hloses⟩
  have hread : (Rule.ofFields stored).update ∈ (RuleSet.ofFields fields).rules :=
    RuleSet.mem_readRules_iff.mpr ⟨items, stored, hitems, hitem, rfl⟩
  have hrules := RuleSet.same_of_sameRules_map (RuleSet.same_iff.mp h).1 _
    (List.mem_map_of_mem hread)
  obtain ⟨-, -, hparams, -⟩ := Rule.same_iff.mp hrules
  have hapart := Rule.keysApart_of_contains_unshadowed fun key =>
    Fields.contains_of_same hparams key
  exact Rule.keysApart_update_ofFields_iff.mp (keysApart_normalize_iff.mp hapart) hloses

theorem same_self_of_loaded (htemplate : engine.template.Storable) (fields : Fields Json) :
    (engine.normalizeSet (RuleSet.ofFields fields)).same
      (engine.normalizeSet (RuleSet.ofFields fields)) = true := by
  apply RuleSet.same_self
  intro rule hrule key x hget
  exact Double.isNaN_of_isFinite ((filed_of_mem_rules htemplate hrule).param hget).2

/-- A set loaded from settings, if the numbers that it is written with are read back, is the same
after saving and loading it again, and so are its verdicts, exactly if no stored rule loses its
list. -/
theorem reload_eq_iff {engine : Engine} (hengine : build .standard = .ok engine) {text : String}
    {set : RuleSet} (hload : engine.loadSettings text = .ok set)
    (hnumbers : set.toJson.NumbersReadBack) :
    ∃ fields back, Json.parse? text = some (.object fields) ∧
      engine.loadSettings set.toJson.render = .ok back ∧
      (back = set ↔ ¬RuleSet.LosesList fields) ∧
      (back.same set = true ↔ ¬RuleSet.LosesList fields) ∧
      (¬RuleSet.LosesList fields →
        ∀ snapshot, engine.evaluate back snapshot = engine.evaluate set snapshot) := by
  have htemplate := storable_template_of_standard hengine
  have hreload := loadSettings_render_toJson htemplate hload hnumbers
  obtain ⟨fields, hparse, rfl⟩ := loadSettings_eq_ok_iff.mp hload
  have hself := same_self_of_loaded htemplate fields
  refine ⟨fields, _, hparse, hreload, ⟨?_, unshadowed_eq⟩, ⟨not_losesList_of_same, ?_⟩, ?_⟩
  · intro h
    apply not_losesList_of_same
    exact (congrArg (RuleSet.same · _) h).trans hself
  · intro h
    rw [unshadowed_eq h]
    exact hself
  · intro h snapshot
    rw [unshadowed_eq h]

/-- A stored rule on a subtotal above 19.99, with a number in an object that no rule reads. -/
def priceRule : Fields Json := .ofList [(Rule.typeKey, .text "cart:subtotal"),
  (Rule.operatorKey, .text "greater_than"),
  ("value", .number (.double ⟨0x4033fd70a3d70a3d⟩ (by decide))),
  ("note", .object (.ofList [("weight", .number (.double ⟨0x3fd0000000000000⟩ (by decide)))]))]

def priceSettings : Fields Json := .ofList [(RuleSet.rulesKey, .array [.object priceRule])]

theorem not_losesList_priceSettings : ¬RuleSet.LosesList priceSettings := by
  rintro ⟨items, rule, hitems, hrule, hloses⟩
  have hstored : priceSettings.get? RuleSet.rulesKey = some (.array [.object priceRule]) := rfl
  cases Json.array_injective (Option.some.inj (hstored.symm.trans hitems))
  have hview := congrArg Json.view (List.mem_singleton.mp hrule)
  rw [Json.view_object, Json.view_object] at hview
  cases hview
  exact Rule.not_losesList_of_current (by decide) hloses

theorem parse?_priceSettings :
    Json.parse? (Json.object priceSettings).render = some (.object priceSettings) :=
  Json.parse?_render (by decide) (by decide +kernel)

theorem loadSettings_priceSettings (engine : Engine) :
    engine.loadSettings (Json.object priceSettings).render =
      .ok (engine.normalizeSet (RuleSet.ofFields priceSettings)) :=
  loadSettings_eq_ok_iff.mpr ⟨_, parse?_priceSettings, rfl⟩

theorem reload_eq_iff_priceSettings :
    ∃ engine set back, build .standard = .ok engine ∧
      engine.loadSettings (Json.object priceSettings).render = .ok set ∧
      set.toJson.NumbersReadBack ∧ engine.loadSettings set.toJson.render = .ok back ∧
      back = set ∧ back.same set = true ∧
      ∀ snapshot, engine.evaluate back snapshot = engine.evaluate set snapshot := by
  have hstandard : (build .standard).toOption.any (fun engine =>
      Decidable.decide
        (engine.normalizeSet (RuleSet.ofFields priceSettings)).toJson.NumbersReadBack) = true := by
    decide +kernel
  obtain ⟨engine, hengine, hnumbers⟩ := exists_standard_of_any hstandard
  have hload := loadSettings_priceSettings engine
  obtain ⟨fields, back, hparse, hback, heq, hsame, hverdicts⟩ :=
    reload_eq_iff hengine hload (of_decide_eq_true hnumbers)
  have hview := congrArg Json.view (Option.some.inj (hparse.symm.trans parse?_priceSettings))
  rw [Json.view_object, Json.view_object] at hview
  cases hview
  have hkept := not_losesList_priceSettings
  exact ⟨engine, _, back, hengine, hload, of_decide_eq_true hnumbers, hback, heq.mpr hkept,
    hsame.mpr hkept, hverdicts hkept⟩

/-- Settings with one rule on the category 5, stored under the former type. -/
def formerCategory : Fields Json := .ofList [(RuleSet.rulesKey, .array [.object (.ofList [
  (Rule.typeKey, .text "cart_products:categories"), (Rule.operatorKey, .text "any_in_list"),
  ("categories", .array [.text "5"]), ("cart_products_product_cat", .null)])])]

def formerCategoryText : String :=
  "\x7b\"rules\":[\x7b\"cart_products_product_cat\":null,\"categories\":[\"5\"]," ++
    "\"operator\":\"any_in_list\",\"type\":\"cart_products:categories\"\x7d]\x7d"

theorem parse?_formerCategoryText :
    Json.parse? formerCategoryText = some (.object formerCategory) := by
  have htext : formerCategoryText = (Json.object formerCategory).render := by decide +kernel
  rw [htext]
  exact Json.parse?_render (by decide) (by decide)

theorem loadSettings_formerCategoryText (engine : Engine) :
    engine.loadSettings formerCategoryText =
      .ok (engine.normalizeSet (RuleSet.ofFields formerCategory)) :=
  loadSettings_eq_ok_iff.mpr ⟨_, parse?_formerCategoryText, rfl⟩

/-- A cart with one product of the category 5. -/
def categoryCart : Snapshot := .ofFacts default [.line ⟨"9", 1, 0, 0, none, [("product_cat", "5")]⟩]

/-- The rule matches the cart before it is saved, and no longer after it has been loaded again. -/
theorem reload_loses_category :
    ∃ engine set back, build .standard = .ok engine ∧
      engine.loadSettings formerCategoryText = .ok set ∧
      engine.loadSettings set.toJson.render = .ok back ∧ back.same set = false ∧
      (engine.evaluate set categoryCart).matched = true ∧
      (engine.evaluate back categoryCart).matched = false := by
  have hstandard : (build .standard).toOption.any (fun engine =>
      let set := engine.normalizeSet (RuleSet.ofFields formerCategory)
      Decidable.decide set.toJson.NumbersReadBack && !set.unshadowed.same set &&
        (engine.evaluate set categoryCart).matched &&
        !(engine.evaluate set.unshadowed categoryCart).matched) = true := by
    decide +kernel
  obtain ⟨engine, hengine, hevaluated⟩ := exists_standard_of_any hstandard
  simp only [Bool.and_eq_true, Bool.not_eq_true', decide_eq_true_eq] at hevaluated
  obtain ⟨⟨⟨hnumbers, hsame⟩, hbefore⟩, hafter⟩ := hevaluated
  have hload := loadSettings_formerCategoryText engine
  have hreload :=
    loadSettings_render_toJson (storable_template_of_standard hengine) hload hnumbers
  exact ⟨engine, _, _, hengine, hload, hreload, hsame, hbefore, hafter⟩

end Engine

end ShippingRules
