import ShippingRules.Proofs.Catalog
import ShippingRules.Proofs.Settings.FormerType
import ShippingRules.Proofs.Template

/-!
The type and the operator that a stored rule names, in the face of configured defaults. A default
is a parameter, parameters are written over the header, and the operator is lifted from parameters
too, so a default may take the place of what a rule stores. It does for some stored rule unless no
default has the key of a header field and none is a text under the operator field of a type.
-/
namespace ShippingRules

/-- The text that stands under a key by default. -/
def Template.text (template : Template) (key : String) : String :=
  ((template.get? key).bind Value.asText?).getD ""

namespace Rule

/-- The operator of a stored rule of this type that stores `name` as its operator. A type that
keeps its operator under another field has the trimmed text there, if that is not blank. -/
def namedOperator (type : Option RuleType) (stored : Fields Json) (name : String) : String :=
  match type with
  | none => name
  | some type =>
    let own := Text.trim (textField stored type.operatorField "")
    if type.operatorField = RuleType.operatorKey ∨ own = "" then name else own

theorem trim_of_trim_currentName {name : String} (h : Text.trim (currentName name) = "") :
    Text.trim name = "" := by
  unfold currentName at h
  cases hformer : formerType? name with
  | none => simpa only [hformer] using h
  | some entry =>
    have hnames : ∀ entry ∈ formerTypes, Text.trim entry.current ≠ "" := by decide
    rw [hformer] at h
    exact absurd h (hnames entry (List.mem_of_find?_eq_some hformer))

end Rule

namespace Engine

/-- The stored type and operator are those of the loaded rule, and are written back. -/
structure KeepsHeader (engine : Engine) (stored : Fields Json) (rule : Rule) : Prop where
  type : ∀ name, stored.get? Rule.typeKey = some (.text name) →
    rule.toFields.get? Rule.typeKey = some (.text (Rule.currentName name))
  operator : ∀ name, stored.get? Rule.operatorKey = some (.text name) →
    rule.operator = Rule.namedOperator (engine.catalog.lookup rule.ruleType) stored name ∧
      rule.toFields.get? Rule.operatorKey = some (.text rule.operator)

/-- Every stored rule keeps its header, in whatever settings it is stored. -/
def KeepsHeaders (engine : Engine) : Prop :=
  ∀ text stored, Json.parse? text = some (.object stored) →
    ∃ set, engine.loadSettings text = .ok set ∧
      set.toFields.get? RuleSet.rulesKey = some (.array (set.rules.map Rule.toJson)) ∧
      List.Forall₂ engine.KeepsHeader (RuleSet.storedRules stored) set.rules

end Engine

/-- No rule of this type has an operator other than it stores: no default stands in for it under
the field of the type, that field is not the one of the type itself, nor one that the list of a
former type is copied to. -/
structure Template.SparesOperator (template : Template) (type : RuleType) : Prop where
  unset : Text.trim (template.text type.operatorField) = ""
  notType : type.operatorField = Rule.typeKey → Text.trim type.id = ""
  notCopied : ∀ entry ∈ Rule.formerTypes, entry.current = type.id →
    entry.currentKey ≠ type.operatorField

namespace Template

instance (template : Template) (type : RuleType) : Decidable (template.SparesOperator type) :=
  decidable_of_iff
    (Text.trim (template.text type.operatorField) = "" ∧
      (type.operatorField = Rule.typeKey → Text.trim type.id = "") ∧
      ∀ entry ∈ Rule.formerTypes, entry.current = type.id → entry.currentKey ≠ type.operatorField)
    ⟨fun h => ⟨h.1, h.2.1, h.2.2⟩, fun h => ⟨h.unset, h.notType, h.notCopied⟩⟩

variable {template : Template} {stored : Fields Json} {key : String}

theorem text_fill (template : Template) (rule : Rule) (key : String) :
    (template.fill rule).text key =
      (((rule.params.get? key).or (if rule.extra.contains key then none
        else template.get? key)).bind Value.asText?).getD "" := by
  rw [Rule.text, Rule.get?, get?_fill]

theorem text_fill_of_isHeader (hkey : Rule.isHeader key = true) (h : template.get? key = none) :
    (template.fill (Rule.ofFields stored).update).text key = "" := by
  rw [text_fill, (Rule.filed_update_ofFields stored).param_eq_none hkey, h, ite_self]
  rfl

theorem text_fill_of_copies {texts : List String} (h : Rule.Copies stored key texts) :
    (template.fill (Rule.ofFields stored).update).text key = "" := by
  rw [text_fill, Rule.param_update_of_copies h]
  rfl

theorem text_fill_of_none (hcopies : ∀ texts, ¬Rule.Copies stored key texts)
    (h : stored.get? key = none) :
    (template.fill (Rule.ofFields stored).update).text key = template.text key := by
  have hparam : (Rule.ofFields stored).update.params.get? key = none := by
    rw [Rule.param_update_of_not_copies hcopies, Rule.ofFields, Fields.get?_filterMap, h]
    rfl
  have hextra : (Rule.ofFields stored).update.extra.contains key = false := by
    rw [Fields.contains, Rule.extra_update_eq_none (Rule.isExtra_eq_false_of_none h)]
    rfl
  rw [text_fill, hparam, hextra, Option.none_or, if_neg Bool.false_ne_true, text]

theorem asText?_ofJson? (json : Json) :
    (Value.ofJson? json).bind Value.asText? = Rule.textOf? json := by
  unfold Value.ofJson? Rule.textOf?
  cases json.view with
  | array items =>
    dsimp only
    cases Value.itemTexts? items <;> rfl
  | _ => rfl

theorem text_fill_of_some (hkey : Rule.isHeader key = false)
    (hcopies : ∀ texts, ¬Rule.Copies stored key texts) {json : Json}
    (h : stored.get? key = some json) :
    (template.fill (Rule.ofFields stored).update).text key = Rule.textField stored key "" := by
  have hparam : (Rule.ofFields stored).update.params.get? key = Value.ofJson? json := by
    rw [Rule.param_update_of_not_copies hcopies, Rule.ofFields, Fields.get?_filterMap, h,
      Option.bind_some, Rule.paramOf?, if_neg (by rw [hkey]; exact Bool.false_ne_true)]
  rw [text_fill, Rule.textField, h, Option.bind_some, ← asText?_ofJson?, hparam]
  cases hvalue : Value.ofJson? json with
  | some value => rw [Option.some_or]
  | none =>
    have hextra : Rule.isExtra key json = true :=
      (Rule.isExtra_of_not_isHeader hkey).mpr ((Value.ofJson?_eq_none_iff json).mp hvalue)
    have hkept : (Rule.ofFields stored).update.extra.contains key = true := by
      rw [Rule.extra_update]
      exact Fields.contains_iff_exists.mpr ⟨json, (Rule.extra_ofFields stored).mpr ⟨h, hextra⟩⟩
    rw [if_pos hkept, Option.none_or]

end Template

theorem RuleSet.storedRules_soleRule (rule : Fields Json) :
    storedRules (soleRule rule) = [rule] := by
  rw [storedRules, get?_soleRule, Option.map_some, Json.view_array]
  simp only [objectOf?, List.filterMap_cons, List.filterMap_nil, Json.view_object]

namespace Engine

variable {config : Config} {engine : Engine} {stored : Fields Json} {type : RuleType} {key : String}

/-- The built-in defaults have no key of a header field. -/
theorem header_unset_iff (h : build config = .ok engine) :
    (∀ key, Rule.isHeader key = true → engine.template.get? key = none) ↔
      ∀ entry ∈ config.defaults, Rule.isHeader entry.1 = false := by
  have hget : ∀ key, engine.template.get? key = (Fields.lastWith key config.defaults).or
      ((Template.builtin config.taxonomies).get? key) := by
    intro key
    rw [(eq_of_build h).1, Template.get?_insertAll]
  constructor
  · intro hunset entry hentry
    by_contra hheader
    have hnone := hunset entry.1 (by simpa using hheader)
    rw [hget, Option.or_eq_none_iff, Fields.lastWith_eq_none_iff] at hnone
    exact hnone.1 entry hentry rfl
  · intro hunset key hkey
    rw [hget, Option.or_eq_none_iff, Fields.lastWith_eq_none_iff]
    constructor
    · intro entry hentry heq
      rw [← heq, hunset entry hentry] at hkey
      cases hkey
    · by_contra hbuiltin
      obtain ⟨value, hvalue⟩ := Option.ne_none_iff_exists'.mp hbuiltin
      rw [(Template.storable_builtin config.taxonomies key value hvalue).1] at hkey
      cases hkey

/-- What is written under a header field that is missing or a text. -/
theorem get?_written_normalize (hkey : Rule.isHeader key = true)
    (h : ∀ json, stored.get? key = some json → Rule.isExtra key json = false) :
    (engine.normalize (Rule.ofFields stored).update).toFields.get? key =
      match engine.template.get? key with
      | some value => some value.toJson
      | none =>
        if key = Rule.operatorKey then
          some (.text (engine.normalize (Rule.ofFields stored).update).operator)
        else some (.text (Rule.currentName (Rule.ofFields stored).ruleType)) := by
  have hextra : (Rule.ofFields stored).update.extra.get? key = none := Rule.extra_update_eq_none h
  have hkept : (engine.normalize (Rule.ofFields stored).update).extra.get? key = none := by
    rw [extra_normalize, hextra]
  have hparam : (engine.normalize (Rule.ofFields stored).update).params.get? key =
      engine.template.get? key := by
    rw [get?_params_normalize, (Rule.filed_update_ofFields stored).param_eq_none hkey,
      Fields.contains, hextra]
    rfl
  cases hdefault : engine.template.get? key with
  | some value => rw [Rule.get?_toFields_of_param hkept (hparam.trans hdefault)]
  | none =>
    rw [Rule.get?_toFields_of_none hkept (hparam.trans hdefault), ruleType_normalize,
      Rule.ruleType_update]
    obtain rfl | rfl := Rule.isHeader_eq_true_iff.mp hkey
    · rfl
    · rfl

section Spares

variable (hheader : ∀ key, Rule.isHeader key = true → engine.template.get? key = none)
include hheader

/-- Under the operator field of such a type a rule has, once defaults are filled in, what it stores
there. -/
theorem trim_text_fill (hspares : engine.template.SparesOperator type)
    (hlookup : engine.catalog.lookup (Rule.ofFields stored).update.ruleType = some type)
    (hfield : type.operatorField ≠ RuleType.operatorKey) :
    Text.trim ((engine.template.fill (Rule.ofFields stored).update).text type.operatorField) =
      Text.trim (Rule.textField stored type.operatorField "") := by
  obtain ⟨-, hid⟩ := Catalog.lookup_eq_some_iff.mp hlookup
  by_cases htype : type.operatorField = Rule.typeKey
  · have hblank := hspares.notType htype
    have hown : Text.trim (Rule.textField stored Rule.typeKey "") = "" := by
      cases hname : (stored.get? Rule.typeKey).bind Rule.textOf? with
      | none =>
        rw [Rule.textField, hname]
        rfl
      | some name =>
        have hstored : (Rule.ofFields stored).ruleType = name := by
          rw [Rule.ofFields, Rule.textField, hname, Option.getD_some]
        rw [hid, Rule.ruleType_update, hstored] at hblank
        rw [Rule.textField, hname, Option.getD_some, Rule.trim_of_trim_currentName hblank]
    rw [htype, Template.text_fill_of_isHeader Rule.isHeader_typeKey
      (hheader _ Rule.isHeader_typeKey), hown]
    rfl
  · have hkey : Rule.isHeader type.operatorField = false := by
      rw [Bool.eq_false_iff]
      intro hcon
      exact (Rule.isHeader_eq_true_iff.mp hcon).elim htype hfield
    have hcopies : ∀ texts, ¬Rule.Copies stored type.operatorField texts := by
      intro texts hcopies
      obtain ⟨entry, hentry, hformer, hcurrent, -⟩ := hcopies
      refine hspares.notCopied entry hentry ?_ hcurrent.symm
      rw [hid, Rule.ruleType_update_of_former hentry hformer]
    cases hget : stored.get? type.operatorField with
    | some json => rw [Template.text_fill_of_some hkey hcopies hget]
    | none =>
      rw [Template.text_fill_of_none hcopies hget, hspares.unset, Rule.textField, hget]
      rfl

theorem keepsHeader_normalize (htypes : ∀ type ∈ engine.catalog.types.items,
      type.operatorField ≠ RuleType.operatorKey → Rule.formerType? type.id = none →
        engine.template.SparesOperator type) (stored : Fields Json) :
    engine.KeepsHeader stored (engine.normalize (Rule.ofFields stored).update) := by
  constructor
  · intro name hname
    rw [get?_written_normalize Rule.isHeader_typeKey
        (Rule.isExtra_eq_false_of_text Rule.isHeader_typeKey hname),
      hheader _ Rule.isHeader_typeKey, Rule.ofFields,
      Rule.textField_of_text Rule.defaultType hname]
    rfl
  · intro name hname
    have hstored : (Rule.ofFields stored).update.operator = name := by
      rw [Rule.operator_update, Rule.ofFields, Rule.textField_of_text _ hname]
    constructor
    · rw [ruleType_normalize]
      cases hlookup : engine.catalog.lookup (Rule.ofFields stored).update.ruleType with
      | none =>
        rw [normalize, hlookup, Template.operator_normalize, hstored]
        rfl
      | some type =>
        by_cases hfield : type.operatorField = RuleType.operatorKey
        · rw [operator_normalize_of_usual hlookup hfield, hstored, Rule.namedOperator,
            if_pos (.inl hfield)]
        · obtain ⟨htype, hid⟩ := Catalog.lookup_eq_some_iff.mp hlookup
          have hcurrent : Rule.formerType? type.id = none := by
            rw [hid]
            exact (Rule.filed_update_ofFields stored).current
          have hspares := htypes type htype hfield hcurrent
          rw [operator_normalize_of_field hlookup hfield,
            trim_text_fill hheader hspares hlookup hfield, hstored]
          simp only [Rule.namedOperator, hfield, false_or]
    · rw [get?_written_normalize Rule.isHeader_operatorKey
          (Rule.isExtra_eq_false_of_text Rule.isHeader_operatorKey hname),
        hheader _ Rule.isHeader_operatorKey]
      rfl

end Spares

/-- The objects among the stored rules are loaded one by one. -/
theorem rules_normalizeSet (stored : Fields Json) :
    (engine.normalizeSet (RuleSet.ofFields stored)).rules =
      (RuleSet.storedRules stored).map fun rule =>
        engine.normalize (Rule.ofFields rule).update := by
  rw [normalizeSet, RuleSet.rules_ofFields, List.map_map]
  rfl

theorem keepsHeaders_of_forall (h : ∀ stored,
      engine.KeepsHeader stored (engine.normalize (Rule.ofFields stored).update)) :
    engine.KeepsHeaders := by
  intro text stored hparse
  refine ⟨_, loadSettings_eq_ok_iff.mpr ⟨stored, hparse, rfl⟩, RuleSet.get?_toFields_rulesKey _, ?_⟩
  rw [rules_normalizeSet, List.forall₂_map_right_iff, List.forall₂_same]
  exact fun rule _ => h rule

/-- A stored rule that is not too deep and whose numbers are read back is the sole rule of some
settings. -/
theorem KeepsHeaders.keepsHeader (h : engine.KeepsHeaders)
    (hdepth : (Json.object stored).nesting ≤ 125)
    (hnumbers : (Json.object stored).NumbersReadBack) :
    engine.KeepsHeader stored (engine.normalize (Rule.ofFields stored).update) := by
  have hparse := Json.parse?_render (RuleSet.nesting_soleRule_le_iff.mpr hdepth) fun n hn =>
    hnumbers n (RuleSet.mem_numbers_soleRule_iff.mp hn)
  obtain ⟨set, hload, -, hkeeps⟩ := h _ _ hparse
  obtain ⟨other, hother, hrules⟩ := engine.loadSettings_soleRule hparse
  cases hload.symm.trans hother
  rw [hrules, RuleSet.storedRules_soleRule] at hkeeps
  exact (List.forall₂_cons.mp hkeeps).1

section Probes

/-- A rule that stores its header and nothing else. -/
def bareRule (type operator : String) : Fields Json :=
  (Fields.empty.insert Rule.typeKey (.text type)).insert Rule.operatorKey (.text operator)

/-- A rule of a former type with a list, which is copied over a text. -/
def listedRule (entry : Rule.FormerType) (operator : String) : Fields Json :=
  ((bareRule entry.former operator).insert entry.formerKey (.array [])).insert entry.currentKey
    (.text "x")

variable (type operator : String)

theorem nesting_bareRule_le : (Json.object (bareRule type operator)).nesting ≤ 125 :=
  Json.nesting_insert_le (Json.nesting_insert_le (by decide) (Nat.zero_le _) _) (Nat.zero_le _) _

theorem nesting_listedRule_le (entry : Rule.FormerType) :
    (Json.object (listedRule entry operator)).nesting ≤ 125 :=
  Json.nesting_insert_le (Json.nesting_insert_le (nesting_bareRule_le _ _) (by decide) _)
    (Nat.zero_le _) _

theorem numbersReadBack_bareRule : (Json.object (bareRule type operator)).NumbersReadBack :=
  .insert (.insert (by decide) (Json.numbersReadBack_text _) _) (Json.numbersReadBack_text _) _

theorem numbersReadBack_listedRule (entry : Rule.FormerType) :
    (Json.object (listedRule entry operator)).NumbersReadBack :=
  .insert (.insert (numbersReadBack_bareRule _ _) (by decide) _) (Json.numbersReadBack_text _) _

theorem get?_bareRule (key : String) :
    (bareRule type operator).get? key =
      if key = Rule.operatorKey then some (.text operator)
      else if key = Rule.typeKey then some (.text type) else none := by
  rw [bareRule, Fields.get?_insert, Fields.get?_insert, Fields.get?_empty]

theorem get?_bareRule_typeKey : (bareRule type operator).get? Rule.typeKey = some (.text type) := by
  rw [get?_bareRule, if_neg (by decide), if_pos rfl]

theorem get?_bareRule_operatorKey :
    (bareRule type operator).get? Rule.operatorKey = some (.text operator) := by
  rw [get?_bareRule, if_pos rfl]

theorem ruleType_bareRule (h : Rule.formerType? type = none) :
    (Rule.ofFields (bareRule type operator)).update.ruleType = type := by
  rw [Rule.ruleType_update, Rule.ofFields,
    Rule.textField_of_text _ (get?_bareRule_typeKey type operator), Rule.currentName, h]

theorem operator_bareRule :
    (Rule.ofFields (bareRule type operator)).update.operator = operator := by
  rw [Rule.operator_update, Rule.ofFields,
    Rule.textField_of_text _ (get?_bareRule_operatorKey type operator)]

theorem not_copies_bareRule {key : String} (h : Rule.formerType? type = none)
    (texts : List String) : ¬Rule.Copies (bareRule type operator) key texts := by
  intro hcopies
  obtain ⟨entry, hentry, hformer, -⟩ := hcopies
  obtain ⟨-, -, hfind⟩ := Rule.formerTypes_former entry hentry
  rw [get?_bareRule_typeKey] at hformer
  cases hformer
  rw [h] at hfind
  cases hfind

theorem get?_listedRule {entry : Rule.FormerType} (hentry : entry ∈ Rule.formerTypes) :
    (listedRule entry operator).get? Rule.typeKey = some (.text entry.former) ∧
      (listedRule entry operator).get? Rule.operatorKey = some (.text operator) ∧
      (listedRule entry operator).get? entry.formerKey = some (.array []) ∧
      (listedRule entry operator).get? entry.currentKey = some (.text "x") := by
  have hkeys : ∀ entry ∈ Rule.formerTypes, Rule.typeKey ≠ entry.currentKey ∧
      Rule.typeKey ≠ entry.formerKey ∧ Rule.operatorKey ≠ entry.currentKey ∧
      Rule.operatorKey ≠ entry.formerKey ∧ entry.formerKey ≠ entry.currentKey := by decide
  obtain ⟨htype, htype', hoperator, hoperator', hformer⟩ := hkeys entry hentry
  refine ⟨?_, ?_, ?_, ?_⟩
  · rw [listedRule, Fields.get?_insert, if_neg htype, Fields.get?_insert, if_neg htype',
      get?_bareRule_typeKey]
  · rw [listedRule, Fields.get?_insert, if_neg hoperator, Fields.get?_insert, if_neg hoperator',
      get?_bareRule_operatorKey]
  · rw [listedRule, Fields.get?_insert, if_neg hformer, Fields.get?_insert, if_pos rfl]
  · rw [listedRule, Fields.get?_insert, if_pos rfl]

theorem copies_listedRule {entry : Rule.FormerType} (hentry : entry ∈ Rule.formerTypes) :
    Rule.Copies (listedRule entry operator) entry.currentKey [] := by
  obtain ⟨htype, -, hlist, -⟩ := get?_listedRule operator hentry
  exact ⟨entry, hentry, htype, rfl, _, hlist, [], rfl, .nil⟩

end Probes

section Necessity

variable (h : engine.KeepsHeaders)
include h

/-- A default under a header field is written there whatever a rule stores. -/
theorem KeepsHeaders.unset (hsubtotal : engine.catalog.lookup Rule.defaultType = some type)
    (hfield : type.operatorField = RuleType.operatorKey) :
    ∀ key, Rule.isHeader key = true → engine.template.get? key = none := by
  intro key hkey
  by_contra hset
  obtain ⟨value, hvalue⟩ := Option.ne_none_iff_exists'.mp hset
  -- Two rules with different texts there are written alike.
  have hwritten : value.toJson = .text "" ∧ value.toJson = .text "x" := by
    obtain rfl | rfl := Rule.isHeader_eq_true_iff.mp hkey
    · have hname : ∀ name, Rule.currentName name = name → value.toJson = .text name := by
        intro name hcurrent
        have htype := get?_bareRule_typeKey name ""
        have hkeeps := (h.keepsHeader (nesting_bareRule_le name "")
          (numbersReadBack_bareRule name "")).type name htype
        rw [get?_written_normalize hkey (Rule.isExtra_eq_false_of_text hkey htype), hvalue,
          hcurrent] at hkeeps
        exact Option.some.inj hkeeps
      exact ⟨hname "" rfl, hname "x" rfl⟩
    · have hname : ∀ name, value.toJson = .text name := by
        intro name
        have hoperator := get?_bareRule_operatorKey Rule.defaultType name
        have hlookup : engine.catalog.lookup
            (Rule.ofFields (bareRule Rule.defaultType name)).update.ruleType = some type := by
          rw [ruleType_bareRule _ _ rfl, hsubtotal]
        obtain ⟨-, hkeeps⟩ :=
          (h.keepsHeader (nesting_bareRule_le Rule.defaultType name)
            (numbersReadBack_bareRule Rule.defaultType name)).operator name hoperator
        rw [get?_written_normalize hkey (Rule.isExtra_eq_false_of_text hkey hoperator), hvalue,
          operator_normalize_of_usual hlookup hfield, operator_bareRule] at hkeeps
        exact Option.some.inj hkeeps
      exact ⟨hname "", hname "x"⟩
  have htexts := congrArg Rule.textOf? (hwritten.1.symm.trans hwritten.2)
  exact absurd htexts (by decide)

/-- A rule whose operator is the empty text shows what else is taken for it. -/
theorem KeepsHeaders.trim_text_fill
    (hlookup : engine.catalog.lookup (Rule.ofFields stored).update.ruleType = some type)
    (hfield : type.operatorField ≠ RuleType.operatorKey)
    (hdepth : (Json.object stored).nesting ≤ 125) (hnumbers : (Json.object stored).NumbersReadBack)
    (hname : stored.get? Rule.operatorKey = some (.text "")) :
    Text.trim ((engine.template.fill (Rule.ofFields stored).update).text type.operatorField) =
      Text.trim (Rule.textField stored type.operatorField "") := by
  obtain ⟨hoperator, -⟩ := (h.keepsHeader hdepth hnumbers).operator "" hname
  have hstored : (Rule.ofFields stored).update.operator = "" := by
    rw [Rule.operator_update, Rule.ofFields, Rule.textField_of_text _ hname]
  rw [lookup_normalize hlookup, operator_normalize_of_field hlookup hfield, hstored] at hoperator
  have hsame : ∀ s : String, (if s = "" then "" else s) = s := by
    intro s
    split
    · rename_i hblank
      exact hblank.symm
    · rfl
  simpa only [Rule.namedOperator, hfield, false_or, hsame] using hoperator

theorem KeepsHeaders.sparesOperator
    (hheader : ∀ key, Rule.isHeader key = true → engine.template.get? key = none)
    (htype : type ∈ engine.catalog.types.items)
    (hfield : type.operatorField ≠ RuleType.operatorKey)
    (hcurrent : Rule.formerType? type.id = none) : engine.template.SparesOperator type := by
  have hid : engine.catalog.lookup type.id = some type :=
    Catalog.lookup_eq_some_iff.mpr ⟨htype, rfl⟩
  have hlookup : engine.catalog.lookup
      (Rule.ofFields (bareRule type.id "")).update.ruleType = some type := by
    rw [ruleType_bareRule _ _ hcurrent, hid]
  have hbare := h.trim_text_fill hlookup hfield (nesting_bareRule_le _ _)
    (numbersReadBack_bareRule _ _) (get?_bareRule_operatorKey _ _)
  by_cases hown : type.operatorField = Rule.typeKey
  · have hunset := hheader _ Rule.isHeader_typeKey
    rw [hown, Template.text_fill_of_isHeader Rule.isHeader_typeKey hunset,
      Rule.textField_of_text _ (get?_bareRule_typeKey _ _)] at hbare
    refine ⟨?_, fun _ => hbare.symm, ?_⟩
    · rw [hown, Template.text, hunset]
      rfl
    · intro entry hentry _ hcopied
      have hkey := (Rule.formerTypes_current entry hentry).2
      rw [hcopied, hown, Rule.isHeader_typeKey] at hkey
      cases hkey
  · have hnone : (bareRule type.id "").get? type.operatorField = none := by
      have hother : type.operatorField ≠ Rule.operatorKey := hfield
      rw [get?_bareRule, if_neg hother, if_neg hown]
    rw [Template.text_fill_of_none (not_copies_bareRule _ _ hcurrent) hnone,
      Rule.textField_of_none _ hnone] at hbare
    refine ⟨hbare, fun hcon => absurd hcon hown, ?_⟩
    intro entry hentry hname hcopied
    obtain ⟨hformer, hoperator, -, hx⟩ := get?_listedRule "" hentry
    have hlisted : engine.catalog.lookup
        (Rule.ofFields (listedRule entry "")).update.ruleType = some type := by
      rw [Rule.ruleType_update_of_former hentry hformer, hname, hid]
    have hfill := h.trim_text_fill hlisted hfield (nesting_listedRule_le _ _)
      (numbersReadBack_listedRule _ _) hoperator
    rw [← hcopied, Template.text_fill_of_copies (copies_listedRule "" hentry),
      Rule.textField_of_text _ hx] at hfill
    exact absurd hfill (by decide)

end Necessity

/-- With the configured defaults every stored header is kept just when none of them has the key of
a header field and no type has its operator from elsewhere than the stored rule. -/
theorem keepsHeaders_iff (h : build config = .ok engine) :
    engine.KeepsHeaders ↔
      (∀ entry ∈ config.defaults, Rule.isHeader entry.1 = false) ∧
        ∀ type ∈ engine.catalog.types.items, type.operatorField ≠ RuleType.operatorKey →
          Rule.formerType? type.id = none → engine.template.SparesOperator type := by
  have hsubtotal : RuleType.new "cart:subtotal" "cart" 10 Operator.numeric ∈ Catalog.builtinTypes :=
    by decide
  rw [← header_unset_iff h]
  constructor
  · intro hkeeps
    have hheader := hkeeps.unset (lookup_of_builtin h hsubtotal) rfl
    exact ⟨hheader, fun type => hkeeps.sparesOperator hheader⟩
  · intro hspares
    obtain ⟨hheader, htypes⟩ := hspares
    exact keepsHeaders_of_forall (keepsHeader_normalize hheader htypes)

/-- Tiers of a loyalty program, by default the golden one. -/
def tiersConfig : Config := { Config.standard with defaults := [("loyalty_tiers", .list ["gold"])] }

theorem keepsHeaders_iff_tiers :
    ∃ engine, build tiersConfig = .ok engine ∧
      engine.template.get? "loyalty_tiers" = some (.list ["gold"]) ∧ engine.KeepsHeaders := by
  have hbuilt : (build tiersConfig).toOption.any (fun engine =>
      engine.template.get? "loyalty_tiers" == some (.list ["gold"]) &&
        engine.catalog.types.items.all fun type => Decidable.decide
          (type.operatorField ≠ RuleType.operatorKey →
            engine.template.SparesOperator type)) = true := by
    decide +kernel
  obtain ⟨engine, hengine, htest⟩ := exists_of_any hbuilt
  simp only [Bool.and_eq_true, beq_iff_eq, List.all_eq_true, decide_eq_true_eq] at htest
  refine ⟨engine, hengine, htest.1, (keepsHeaders_iff hengine).mpr ⟨by decide, ?_⟩⟩
  exact fun type htype hfield _ => htest.2 type htype hfield

/-- The canonical type and operator as configured defaults. -/
def headerConfig : Config :=
  { Config.standard with
    defaults := [("type", .text "cart:subtotal"), ("operator", .text "greater_than")] }

/-- A rule that excludes the user 7. -/
def excludedUser : Fields Json := .ofList [(Rule.typeKey, .text "user:users"),
  (Rule.operatorKey, .text "not_in_list"), ("users", .array [.text "7"])]

/-- The loaded rule is on users, and it is written back as a rule on the subtotal. -/
theorem not_keepsHeaders_headerConfig :
    ∃ engine set rule, build headerConfig = .ok engine ∧
      engine.loadSettings (Json.object (RuleSet.soleRule excludedUser)).render = .ok set ∧
      set.rules = [rule] ∧ rule.ruleType = "user:users" ∧ rule.operator = "not_in_list" ∧
      rule.toFields.get? Rule.typeKey = some (.text "cart:subtotal") ∧
      rule.toFields.get? Rule.operatorKey = some (.text "greater_than") ∧
      ¬engine.KeepsHeaders := by
  have hbuilt : (build headerConfig).toOption.any (fun engine =>
      let rule := engine.normalize (Rule.ofFields excludedUser).update
      rule.ruleType == "user:users" && rule.operator == "not_in_list" &&
        engine.template.get? Rule.typeKey == some (.text "cart:subtotal") &&
        engine.template.get? Rule.operatorKey == some (.text "greater_than")) = true := by
    decide +kernel
  obtain ⟨engine, hengine, htest⟩ := exists_of_any hbuilt
  simp only [Bool.and_eq_true, beq_iff_eq] at htest
  obtain ⟨⟨⟨hname, hoperator⟩, htypeDefault⟩, hoperatorDefault⟩ := htest
  have hparse : Json.parse? (Json.object (RuleSet.soleRule excludedUser)).render =
      some (.object (RuleSet.soleRule excludedUser)) :=
    Json.parse?_render (by decide +kernel) (by decide +kernel)
  obtain ⟨set, hload, hrules⟩ := engine.loadSettings_soleRule hparse
  have hdepth : (Json.object excludedUser).nesting ≤ 125 := by decide +kernel
  have htype : excludedUser.get? Rule.typeKey = some (.text "user:users") := rfl
  have hkey := Rule.isExtra_eq_false_of_text Rule.isHeader_typeKey htype
  refine ⟨engine, set, _, hengine, hload, hrules, hname, hoperator, ?_, ?_, ?_⟩
  · rw [get?_written_normalize Rule.isHeader_typeKey hkey, htypeDefault]
    rfl
  · rw [get?_written_normalize Rule.isHeader_operatorKey
      (Rule.isExtra_eq_false_of_text Rule.isHeader_operatorKey rfl), hoperatorDefault]
    rfl
  · intro h
    have hkeeps := (h.keepsHeader hdepth (by decide +kernel)).type "user:users" htype
    rw [get?_written_normalize Rule.isHeader_typeKey hkey, htypeDefault] at hkeeps
    have hnames := congrArg Rule.textOf? (Option.some.inj hkeeps)
    exact absurd hnames (by decide)

end Engine

end ShippingRules
