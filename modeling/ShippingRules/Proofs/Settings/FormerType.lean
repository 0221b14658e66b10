import ShippingRules.Proofs.Evaluator.Table
import ShippingRules.Proofs.Settings.Reload
import ShippingRules.Proofs.Settings.WrittenBack

/-!
Rules of former types mean what their current form means. The current form of a stored rule names
the current type, and has the list of the former field under the current one, in place of anything
stored there. Both forms are read as rules with the same type, operator and parameters. They differ
in what is kept beside the list, and no built-in evaluator looks at that.
-/
namespace ShippingRules

/-- Whether a value is an array made only of texts and numbers. -/
def Json.isPlainList (json : Json) : Bool :=
  match json.view with
  | .array items => items.all fun item => (Value.itemText? item).isSome
  | _ => false

theorem Json.isPlainList_iff {json : Json} :
    json.isPlainList = true ↔ ∃ texts, json.Lists texts := by
  simp only [← Value.ofJson?_eq_list_iff]
  unfold isPlainList Value.ofJson?
  cases json.view with
  | array items =>
    have hnone := not_congr (Value.itemTexts?_eq_none_iff items)
    simp only [not_exists, not_and, ← ne_eq, ← Option.isSome_iff_ne_none] at hnone
    rw [List.all_eq_true, ← hnone, Option.isSome_iff_exists]
    simp only [Option.map_eq_some_iff, Value.list.injEq, exists_eq_right]
  | _ => simp

namespace Rule

/-- The stored rule as it would be stored under the current name of its former type. -/
def currentForm (entry : FormerType) (stored : Fields Json) : Fields Json :=
  let renamed := stored.insert typeKey (.text entry.current)
  match (stored.get? entry.formerKey).filter Json.isPlainList with
  | some list => renamed.insert entry.currentKey list
  | none => renamed

section CurrentForm

variable {entry : FormerType} {stored : Fields Json}

theorem typeKey_ne_currentKey (hentry : entry ∈ formerTypes) : typeKey ≠ entry.currentKey := by
  rintro hkey
  have hheader := (formerTypes_current entry hentry).2
  rw [← hkey, isHeader_typeKey] at hheader
  cases hheader

theorem get?_currentForm_typeKey (hentry : entry ∈ formerTypes) :
    (currentForm entry stored).get? typeKey = some (.text entry.current) := by
  unfold currentForm
  dsimp only
  split
  · rw [Fields.get?_insert, if_neg (typeKey_ne_currentKey hentry), Fields.get?_insert, if_pos rfl]
  · rw [Fields.get?_insert, if_pos rfl]

theorem get?_currentForm_currentKey {json : Json} {texts : List String}
    (hjson : stored.get? entry.formerKey = some json) (hlists : json.Lists texts) :
    (currentForm entry stored).get? entry.currentKey = some json := by
  have hplain : json.isPlainList = true := Json.isPlainList_iff.mpr ⟨texts, hlists⟩
  rw [currentForm, hjson, Option.filter_some, if_pos hplain]
  dsimp only
  rw [Fields.get?_insert, if_pos rfl]

/-- Other fields are as they were stored, and so is the current one if there is no list to copy. -/
theorem get?_currentForm_of_not_copies {key : String} (hentry : entry ∈ formerTypes)
    (htype : stored.get? typeKey = some (.text entry.former)) (hkey : key ≠ typeKey)
    (h : ∀ texts, ¬Copies stored key texts) :
    (currentForm entry stored).get? key = stored.get? key := by
  unfold currentForm
  dsimp only
  split
  · rename_i json hfilter
    obtain ⟨hjson, hplain⟩ := Option.filter_eq_some_iff.mp hfilter
    obtain ⟨texts, hlists⟩ := Json.isPlainList_iff.mp hplain
    have hcurrent : key ≠ entry.currentKey := by
      rintro rfl
      exact h texts ⟨entry, hentry, htype, rfl, json, hjson, hlists⟩
    rw [Fields.get?_insert, if_neg hcurrent, Fields.get?_insert, if_neg hkey]
  · rw [Fields.get?_insert, if_neg hkey]

theorem update_currentForm (hentry : entry ∈ formerTypes) :
    (ofFields (currentForm entry stored)).update = ofFields (currentForm entry stored) := by
  apply update_of_current
  rw [ofFields, textField_of_text defaultType (get?_currentForm_typeKey hentry)]
  exact (formerTypes_current entry hentry).1

variable (hentry : entry ∈ formerTypes) (htype : stored.get? typeKey = some (.text entry.former))
include hentry htype

theorem get?_currentForm_of_copies {key : String} {texts : List String}
    (h : Copies stored key texts) :
    ∃ json, (currentForm entry stored).get? key = some json ∧ json.Lists texts := by
  obtain ⟨other, hother, hformer, rfl, json, hjson, hlists⟩ := h
  have hsame : some entry = some other :=
    (formerType?_ofFields hentry htype).symm.trans (formerType?_ofFields hother hformer)
  cases hsame
  exact ⟨json, get?_currentForm_currentKey hjson hlists, hlists⟩

theorem params_currentForm :
    (ofFields (currentForm entry stored)).params = (ofFields stored).update.params := by
  apply Fields.ext_get?
  intro key
  by_cases hcopies : ∃ texts, Copies stored key texts
  · obtain ⟨texts, hcopies⟩ := hcopies
    obtain ⟨json, hjson, hlists⟩ := get?_currentForm_of_copies hentry htype hcopies
    rw [param_update_of_copies hcopies, param_ofFields_iff (isHeader_of_copies hcopies)]
    exact ⟨json, hjson, Value.ofJson?_eq_list_iff.mpr hlists⟩
  · rw [not_exists] at hcopies
    rw [param_update_of_not_copies hcopies, ofFields, ofFields, Fields.get?_filterMap,
      Fields.get?_filterMap]
    by_cases hkey : key = typeKey
    · subst hkey
      rw [get?_currentForm_typeKey hentry, htype]
      rfl
    · rw [get?_currentForm_of_not_copies hentry htype hkey hcopies]

/-- What is kept differs at most where the list stands. -/
theorem extra_currentForm {key : String} (h : (ofFields stored).update.params.get? key = none) :
    (ofFields (currentForm entry stored)).extra.get? key =
      (ofFields stored).update.extra.get? key := by
  have hcopies : ∀ texts, ¬Copies stored key texts := by
    intro texts hcopies
    rw [param_update_of_copies hcopies] at h
    cases h
  rw [extra_update, ofFields, ofFields, Fields.get?_filter, Fields.get?_filter]
  by_cases hkey : key = typeKey
  · subst hkey
    rw [get?_currentForm_typeKey hentry, htype]
    rfl
  · rw [get?_currentForm_of_not_copies hentry htype hkey hcopies]

theorem ruleType_update_of_former : (ofFields stored).update.ruleType = entry.current := by
  rw [ruleType_update, currentName, formerType?_ofFields hentry htype]

theorem operator_currentForm :
    (ofFields (currentForm entry stored)).operator = (ofFields stored).update.operator := by
  have hcopies : ∀ texts, ¬Copies stored operatorKey texts := by
    intro texts hcopies
    have hheader := isHeader_of_copies hcopies
    rw [isHeader_operatorKey] at hheader
    cases hheader
  rw [operator_update, ofFields, ofFields, textField, textField,
    get?_currentForm_of_not_copies hentry htype (by decide) hcopies]
  rfl

end CurrentForm

theorem nesting_currentForm_le {entry : FormerType} {stored : Fields Json} {depth : Nat}
    (h : (Json.object stored).nesting ≤ depth + 1) :
    (Json.object (currentForm entry stored)).nesting ≤ depth + 1 := by
  have hname : (Json.text entry.current).nesting ≤ depth := Nat.zero_le depth
  have hrenamed := Json.nesting_insert_le h hname typeKey
  unfold currentForm
  dsimp only
  split
  · rename_i json hfilter
    have hjson := (Option.filter_eq_some_iff.mp hfilter).1
    exact Json.nesting_insert_le hrenamed (Json.nesting_object_le_iff.mp h _ _ hjson) _
  · exact hrenamed

/-- The current form of a rule holds no other numbers than the rule. -/
theorem mem_numbers_of_currentForm {entry : FormerType} {stored : Fields Json} {n : Json.Number}
    (h : n ∈ (Json.object (currentForm entry stored)).numbers) :
    n ∈ (Json.object stored).numbers := by
  have hrenamed : n ∈ (Json.object (stored.insert typeKey (.text entry.current))).numbers →
      n ∈ (Json.object stored).numbers := fun hn =>
    (Json.mem_numbers_insert hn).resolve_left List.not_mem_nil
  unfold currentForm at h
  dsimp only at h
  split at h
  · rename_i json hfilter
    have hjson := (Option.filter_eq_some_iff.mp hfilter).1
    rcases Json.mem_numbers_insert h with hn | hn
    · exact Json.mem_numbers_object_iff.mpr ⟨_, json, hjson, hn⟩
    · exact hrenamed hn
  · exact hrenamed h

end Rule

namespace RuleSet

/-- Settings that store one rule and nothing else. -/
def soleRule (rule : Fields Json) : Fields Json := .ofList [(rulesKey, .array [.object rule])]

theorem get?_soleRule (rule : Fields Json) :
    (soleRule rule).get? rulesKey = some (.array [.object rule]) := by
  rw [soleRule, Fields.get?_ofList]
  rfl

theorem nesting_soleRule_le_iff {rule : Fields Json} {depth : Nat} :
    (Json.object (soleRule rule)).nesting ≤ depth + 3 ↔ (Json.object rule).nesting ≤ depth + 1 := by
  have harray : (Json.array [.object rule]).nesting ≤ depth + 2 ↔
      (Json.object rule).nesting ≤ depth + 1 := by
    rw [Json.nesting_array_le_iff, List.forall_mem_singleton]
  rw [← harray, Json.nesting_object_le_iff]
  constructor
  · exact fun h => h rulesKey _ (get?_soleRule rule)
  · intro h key json hget
    obtain ⟨-, rfl⟩ := Prod.mk.inj (List.mem_singleton.mp (Fields.mem_of_get?_ofList hget))
    exact h

theorem mem_numbers_soleRule_iff {rule : Fields Json} {n : Json.Number} :
    n ∈ (Json.object (soleRule rule)).numbers ↔ n ∈ (Json.object rule).numbers := by
  rw [Json.mem_numbers_object_iff]
  constructor
  · rintro ⟨key, json, hget, hn⟩
    obtain ⟨-, rfl⟩ := Prod.mk.inj (List.mem_singleton.mp (Fields.mem_of_get?_ofList hget))
    obtain ⟨_, hitem, hn⟩ := Json.mem_numbers_array_iff.mp hn
    cases List.mem_singleton.mp hitem
    exact hn
  · intro hn
    exact ⟨rulesKey, _, get?_soleRule rule,
      Json.mem_numbers_array_iff.mpr ⟨_, List.mem_singleton_self _, hn⟩⟩

theorem rules_soleRule (rule : Fields Json) :
    (ofFields (soleRule rule)).rules = [(Rule.ofFields rule).update] := by
  rw [rules_ofFields, storedRules, get?_soleRule, Option.map_some, Json.view_array]
  simp only [objectOf?, List.filterMap_cons, List.filterMap_nil, Json.view_object, List.map_cons,
    List.map_nil]

end RuleSet

namespace Engine

variable (engine : Engine)

theorem loadSettings_soleRule {rule : Fields Json} {text : String}
    (h : Json.parse? text = some (.object (RuleSet.soleRule rule))) :
    ∃ set, engine.loadSettings text = .ok set ∧
      set.rules = [engine.normalize (Rule.ofFields rule).update] := by
  refine ⟨_, loadSettings_eq_ok_iff.mpr ⟨_, h, rfl⟩, ?_⟩
  rw [normalizeSet, RuleSet.rules_soleRule, List.map_singleton]

section CurrentForm

variable {entry : Rule.FormerType} {stored : Fields Json} (hentry : entry ∈ Rule.formerTypes)
  (htype : stored.get? Rule.typeKey = some (.text entry.former))
include hentry htype

/-- Beside the kept fields, a rule of a former type and its current form have one normal form. -/
theorem normalize_currentForm :
    engine.normalize (Rule.ofFields (Rule.currentForm entry stored)).update =
      { engine.normalize (Rule.ofFields stored).update with
        extra := (Rule.ofFields (Rule.currentForm entry stored)).extra } := by
  have hcurrent : (Rule.ofFields (Rule.currentForm entry stored)).update = _ :=
    Rule.update_currentForm hentry
  have htypes : (Rule.ofFields (Rule.currentForm entry stored)).ruleType =
      (Rule.ofFields stored).update.ruleType := by
    rw [Rule.ruleType_update_of_former hentry htype, Rule.ofFields]
    exact Rule.textField_of_text _ (Rule.get?_currentForm_typeKey hentry)
  rw [hcurrent]
  exact normalize_of_params htypes (Rule.operator_currentForm hentry htype)
    (Rule.params_currentForm hentry htype) fun key => Rule.extra_currentForm hentry htype

theorem evaluateRule_currentForm {config : Config} {engine : Engine}
    (hengine : build config = .ok engine) (hconfig : config.evaluators = []) (snapshot : Snapshot) :
    engine.evaluateRule snapshot
        (engine.normalize (Rule.ofFields (Rule.currentForm entry stored)).update) =
      engine.evaluateRule snapshot (engine.normalize (Rule.ofFields stored).update) := by
  rw [engine.normalize_currentForm hentry htype]
  exact evaluateRule_of_extra hengine hconfig snapshot _ _

end CurrentForm

/-- A stored rule of a former type is loaded as a rule of the current type, and fares on every
snapshot as its current form does. -/
theorem loadSettings_currentForm {config : Config} {engine : Engine}
    (hengine : build config = .ok engine) (hconfig : config.evaluators = [])
    {entry : Rule.FormerType} (hentry : entry ∈ Rule.formerTypes) {stored : Fields Json}
    (htype : stored.get? Rule.typeKey = some (.text entry.former)) {text : String}
    (hparse : Json.parse? text = some (.object (RuleSet.soleRule stored))) :
    (∃ currentText, Json.parse? currentText =
      some (.object (RuleSet.soleRule (Rule.currentForm entry stored)))) ∧
    ∀ currentText, Json.parse? currentText =
        some (.object (RuleSet.soleRule (Rule.currentForm entry stored))) →
      ∃ set rule currentSet current,
        engine.loadSettings text = .ok set ∧ set.rules = [rule] ∧
        engine.loadSettings currentText = .ok currentSet ∧ currentSet.rules = [current] ∧
        rule.ruleType = entry.current ∧ current.ruleType = entry.current ∧
        rule.operator = current.operator ∧
        ∀ snapshot, engine.evaluateRule snapshot rule = engine.evaluateRule snapshot current := by
  have hdepth := RuleSet.nesting_soleRule_le_iff.mp (Json.nesting_le_of_parse? hparse)
  have hcurrentDepth := RuleSet.nesting_soleRule_le_iff.mpr
    (@Rule.nesting_currentForm_le entry stored _ hdepth)
  have hlegible : ∀ n ∈ (Json.object (RuleSet.soleRule (Rule.currentForm entry stored))).numbers,
      n.Legible := fun n hn =>
    Json.legible_of_parse? hparse n (RuleSet.mem_numbers_soleRule_iff.mpr
      (Rule.mem_numbers_of_currentForm (RuleSet.mem_numbers_soleRule_iff.mp hn)))
  refine ⟨Json.exists_parse?_iff.mpr ⟨hcurrentDepth, hlegible⟩, ?_⟩
  intro currentText hcurrent
  obtain ⟨set, hset, hrule⟩ := engine.loadSettings_soleRule hparse
  obtain ⟨currentSet, hcurrentSet, hcurrentRule⟩ := engine.loadSettings_soleRule hcurrent
  have hnormal := engine.normalize_currentForm hentry htype
  have hname : (engine.normalize (Rule.ofFields stored).update).ruleType = entry.current :=
    ruleType_normalize.trans (Rule.ruleType_update_of_former hentry htype)
  refine ⟨set, _, currentSet, _, hset, hrule, hcurrentSet, hcurrentRule, hname, ?_, ?_, ?_⟩
  · rw [hnormal, hname]
  · rw [hnormal]
  · intro snapshot
    exact (evaluateRule_currentForm hentry htype hengine hconfig snapshot).symm

/-- How rules on tags were stored formerly. -/
def tagsType : Rule.FormerType :=
  ⟨"cart_products:tags", "cart_products:product_tag", "tags", "cart_products_product_tag"⟩

/-- A rule on the tags 7 and 8 with an object under the current field. -/
def formerTags : Fields Json := .ofList [(Rule.typeKey, .text "cart_products:tags"),
  (Rule.operatorKey, .text "any_in_list"),
  ("tags", .array [.text "7", .number (.whole 8 (by decide))]),
  ("cart_products_product_tag", .object .empty)]

/-- A cart with one product of the tag 8. -/
def tagCart : Snapshot := .ofFacts default [.line ⟨"9", 1, 0, 0, none, [("product_tag", "8")]⟩]

theorem loadSettings_currentForm_formerTags :
    ∃ engine text currentText set rule currentSet current, build .standard = .ok engine ∧
      Json.parse? text = some (.object (RuleSet.soleRule formerTags)) ∧
      Json.parse? currentText =
        some (.object (RuleSet.soleRule (Rule.currentForm tagsType formerTags))) ∧
      engine.loadSettings text = .ok set ∧ set.rules = [rule] ∧
      engine.loadSettings currentText = .ok currentSet ∧ currentSet.rules = [current] ∧
      rule.ruleType = "cart_products:product_tag" ∧ rule.operator = current.operator ∧
      engine.evaluateRule tagCart rule = .matched ∧
      engine.evaluateRule tagCart current = .matched := by
  have hstandard : (build .standard).toOption.any (fun engine =>
      engine.evaluateRule tagCart (engine.normalize (Rule.ofFields formerTags).update) ==
        .matched) = true := by
    decide +kernel
  obtain ⟨engine, hengine, hmatched⟩ := exists_standard_of_any hstandard
  rw [beq_iff_eq] at hmatched
  have hparse : Json.parse? (Json.object (RuleSet.soleRule formerTags)).render =
      some (.object (RuleSet.soleRule formerTags)) :=
    Json.parse?_render (by decide +kernel) (by decide +kernel)
  have htype : formerTags.get? Rule.typeKey = some (.text tagsType.former) := rfl
  obtain ⟨⟨currentText, hcurrent⟩, hload⟩ := loadSettings_currentForm hengine rfl
    (show tagsType ∈ Rule.formerTypes by decide) htype hparse
  obtain ⟨set, rule, currentSet, current, hset, hrule, hcurrentSet, hcurrentRule, hname, -,
    hoperator, hsame⟩ := hload currentText hcurrent
  have hloaded : rule = engine.normalize (Rule.ofFields formerTags).update := by
    obtain ⟨other, hother, hrules⟩ := engine.loadSettings_soleRule hparse
    cases hset.symm.trans hother
    exact List.singleton_injective (hrule.symm.trans hrules)
  rw [← hloaded] at hmatched
  exact ⟨engine, _, currentText, set, rule, currentSet, current, hengine, hparse, hcurrent, hset,
    hrule, hcurrentSet, hcurrentRule, hname, hoperator, hmatched,
    (hsame tagCart).symm.trans hmatched⟩

end Engine

end ShippingRules
