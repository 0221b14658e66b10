import ShippingRules.Fields.Lemmas
import ShippingRules.Proofs.Number.Rounding
import ShippingRules.Settings.StoredRule

/-!
What survives when a rule is written and read back. A parameter is read back from its stored form
if it is storable; a kept field stays a kept field if it has no reading as a parameter. Where a
parameter and a kept field share a key, only the kept field is written, so the parameter is lost.
Reading produces such an overlap in one way alone: the list of a former type becomes a parameter
under a key at which something unreadable is stored.
-/
namespace ShippingRules

namespace Value

/-- Whether a value has a stored form of its own: an instant is stored like its text, and a number
that is not finite like nothing. -/
def Storable : Value → Prop
  | number x => x.isFinite = true
  | temporal _ => False
  | _ => True

theorem itemTexts?_map_text (items : List String) :
    itemTexts? (items.map Json.text) = some items := by
  induction items with
  | nil => rfl
  | cons head rest ih =>
    rw [List.map_cons, itemTexts?, ih]
    rfl

/-- Reading inverts writing on the storable values. -/
theorem ofJson?_toJson {value : Value} (h : value.Storable) :
    ofJson? value.toJson = some value := by
  cases value with
  | number x =>
    have hx : x.isFinite = true := h
    rw [toJson, Json.ofDouble, dif_pos hx]
    rfl
  | text s => rfl
  | list items =>
    rw [toJson, ofJson?, Json.view_array]
    exact congrArg (Option.map list) (itemTexts?_map_text items)
  | temporal t => cases h
  | bool b => rfl

theorem isFinite_toDouble (n : Json.Number) : n.toDouble.isFinite = true := by
  cases n with
  | whole value fits =>
    obtain ⟨hlow, hhigh⟩ := fits
    exact Double.isFinite_ofInt (by omega)
  | double value finite => exact finite

/-- Reading yields storable values alone. -/
theorem storable_of_ofJson? {json : Json} {value : Value} (h : ofJson? json = some value) :
    value.Storable := by
  unfold ofJson? at h
  split at h
  · cases h
    trivial
  · cases h
    exact isFinite_toDouble _
  · cases h
    trivial
  · obtain ⟨items, -, rfl⟩ := Option.map_eq_some_iff.mp h
    trivial
  · cases h
  · cases h

/-- A stored field that is no parameter: null, an object, or an array with an item that is neither
a text nor a number. -/
def Unreadable (json : Json) : Prop :=
  json = .null ∨ (∃ fields, json = .object fields) ∨
    ∃ items, json = .array items ∧
      ∃ item ∈ items, (∀ s, item ≠ .text s) ∧ ∀ n, item ≠ .number n

theorem itemText?_eq_none_iff (json : Json) :
    itemText? json = none ↔ (∀ s, json ≠ .text s) ∧ ∀ n, json ≠ .number n := by
  constructor
  · intro h
    constructor
    · rintro s rfl
      cases h
    · rintro n rfl
      cases h
  · rintro ⟨htext, hnumber⟩
    unfold itemText?
    split
    · rename_i s hview
      exact absurd (Json.eq_of_view_eq hview) (htext s)
    · rename_i n hview
      exact absurd (Json.eq_of_view_eq hview) (hnumber n)
    · rfl

theorem itemTexts?_eq_none_iff (items : List Json) :
    itemTexts? items = none ↔ ∃ item ∈ items, itemText? item = none := by
  induction items with
  | nil => simp [itemTexts?]
  | cons head rest ih =>
    cases hhead : itemText? head with
    | none => simp [itemTexts?, hhead]
    | some s =>
      cases hrest : itemTexts? rest with
      | none => simpa [itemTexts?, hhead, hrest] using ih.mp hrest
      | some texts => simpa [itemTexts?, hhead, hrest] using ih

theorem ofJson?_eq_none_iff (json : Json) : ofJson? json = none ↔ Unreadable json := by
  constructor
  · intro h
    unfold ofJson? at h
    split at h
    · cases h
    · cases h
    · cases h
    · rename_i items hview
      have hitems := (itemTexts?_eq_none_iff items).mp (Option.map_eq_none_iff.mp h)
      simp only [itemText?_eq_none_iff] at hitems
      have hjson := Json.eq_of_view_eq (hview.trans (Json.view_array items).symm)
      exact .inr (.inr ⟨items, hjson, hitems⟩)
    · rename_i hview
      exact .inl (Json.eq_of_view_eq hview)
    · rename_i fields hview
      exact .inr (.inl ⟨fields, Json.eq_of_view_eq (hview.trans (Json.view_object fields).symm)⟩)
  · rintro (rfl | ⟨fields, rfl⟩ | ⟨items, rfl, hitems⟩)
    · rfl
    · rw [ofJson?, Json.view_object]
    · simp only [← itemText?_eq_none_iff] at hitems
      rw [ofJson?, Json.view_array]
      exact Option.map_eq_none_iff.mpr ((itemTexts?_eq_none_iff items).mpr hitems)

end Value

namespace Rule

section Keys

theorem paramOf?_eq_none {key : String} {json : Json} (h : isExtra key json = true) :
    paramOf? key json = none := by
  unfold isExtra at h
  unfold paramOf?
  split at h
  · rename_i hkey
    rw [if_pos hkey]
  · rename_i hkey
    rw [if_neg hkey]
    exact Option.isNone_iff_eq_none.mp h

theorem paramOf?_toJson {key : String} {value : Value} (hkey : isHeader key = false)
    (hvalue : value.Storable) : paramOf? key value.toJson = some value := by
  unfold paramOf?
  rw [hkey]
  exact Value.ofJson?_toJson hvalue

theorem isExtra_toJson {key : String} {value : Value} (hkey : isHeader key = false)
    (hvalue : value.Storable) : isExtra key value.toJson = false := by
  unfold isExtra
  rw [hkey, Value.ofJson?_toJson hvalue]
  rfl

theorem isHeader_of_paramOf? {key : String} {json : Json} {value : Value}
    (h : paramOf? key json = some value) : isHeader key = false ∧ value.Storable := by
  unfold paramOf? at h
  split at h
  · cases h
  · rename_i hkey
    exact ⟨Bool.eq_false_iff.mpr hkey, Value.storable_of_ofJson? h⟩

end Keys

section Fields

variable {rule : Rule} {key : String}

theorem get?_toFields_of_extra {json : Json} (h : rule.extra.get? key = some json) :
    rule.toFields.get? key = some json := by
  rw [toFields, Fields.get?_overlay, h, Option.some_or]

theorem get?_toFields_of_param {value : Value} (hextra : rule.extra.get? key = none)
    (h : rule.params.get? key = some value) : rule.toFields.get? key = some value.toJson := by
  rw [toFields, Fields.get?_overlay, hextra, Option.none_or, Fields.get?_overlay, Fields.get?_map,
    h, Option.map_some, Option.some_or]

/-- Under a key that is neither a kept field nor a parameter, only the type and the operator are
written. -/
theorem get?_toFields_of_none (hextra : rule.extra.get? key = none)
    (hparam : rule.params.get? key = none) :
    rule.toFields.get? key =
      if key = operatorKey then some (Json.text rule.operator)
      else if key = typeKey then some (Json.text rule.ruleType) else none := by
  rw [toFields, Fields.get?_overlay, hextra, Option.none_or, Fields.get?_overlay, Fields.get?_map,
    hparam, Option.map_none, Option.none_or]
  simp only [Fields.ofList, List.foldl_cons, List.foldl_nil, Fields.get?_insert, Fields.get?_empty]

theorem isHeader_eq_true_iff : isHeader key = true ↔ key = typeKey ∨ key = operatorKey :=
  decide_eq_true_iff

theorem isHeader_typeKey : isHeader typeKey = true := by decide

theorem isHeader_operatorKey : isHeader operatorKey = true := by decide

/-- What is written beside the kept fields and the parameters is a header with a text. -/
theorem isHeader_of_get?_toFields {json : Json} (hextra : rule.extra.get? key = none)
    (hparam : rule.params.get? key = none) (h : rule.toFields.get? key = some json) :
    isHeader key = true ∧ ∃ s, json = .text s := by
  rw [get?_toFields_of_none hextra hparam] at h
  split at h
  · rename_i hkey
    cases h
    exact ⟨isHeader_eq_true_iff.mpr (.inr hkey), _, rfl⟩
  · split at h
    · rename_i hkey
      cases h
      exact ⟨isHeader_eq_true_iff.mpr (.inl hkey), _, rfl⟩
    · cases h

end Fields

theorem textOf?_eq_none_iff (json : Json) : textOf? json = none ↔ ∀ s, json ≠ .text s := by
  constructor
  · rintro h s rfl
    cases h
  · intro h
    unfold textOf?
    split
    · rename_i s hview
      exact absurd (Json.eq_of_view_eq hview) (h s)
    · rfl

theorem isExtra_of_isHeader {key : String} {json : Json} (hkey : isHeader key = true) :
    isExtra key json = true ↔ ∀ s, json ≠ .text s := by
  rw [isExtra, if_pos hkey, Option.isNone_iff_eq_none, textOf?_eq_none_iff]

theorem isExtra_of_not_isHeader {key : String} {json : Json} (hkey : isHeader key = false) :
    isExtra key json = true ↔ Value.Unreadable json := by
  rw [isExtra, hkey, if_neg Bool.false_ne_true, Option.isNone_iff_eq_none,
    Value.ofJson?_eq_none_iff]

theorem update_of_current {rule : Rule} (h : formerType? rule.ruleType = none) :
    rule.update = rule := by
  rw [update, h]

/-- Bringing a rule up to date changes the type of a former type, and adds its list if it has
one. -/
theorem update_cases (rule : Rule) :
    (formerType? rule.ruleType = none ∧ rule.update = rule) ∨
      ∃ entry ∈ formerTypes, rule.ruleType = entry.former ∧
        ((∃ items, rule.get? entry.formerKey = some (.list items) ∧
            rule.update = { rule with
              ruleType := entry.current
              params := rule.params.insert entry.currentKey (.list items) }) ∨
          (∀ items, rule.get? entry.formerKey ≠ some (.list items)) ∧
            rule.update = { rule with ruleType := entry.current }) := by
  cases hentry : formerType? rule.ruleType with
  | none => exact .inl ⟨rfl, update_of_current hentry⟩
  | some entry =>
    have hformer := List.find?_some hentry
    refine .inr ⟨entry, List.mem_of_find?_eq_some hentry, (eq_of_beq hformer).symm, ?_⟩
    unfold update
    rw [hentry]
    cases hget : rule.get? entry.formerKey with
    | none => exact .inr ⟨fun items h => (by cases h), by simp only [hget]⟩
    | some value =>
      cases value with
      | list items => exact .inl ⟨items, rfl, by simp only [hget]⟩
      | _ => exact .inr ⟨fun items h => (by cases h), by simp only [hget]⟩

theorem extra_update (rule : Rule) : rule.update.extra = rule.extra := by
  rcases update_cases rule with ⟨-, heq⟩ | ⟨entry, -, -, ⟨items, -, heq⟩ | ⟨-, heq⟩⟩
  · rw [heq]
  · rw [heq]
  · rw [heq]

theorem operator_update (rule : Rule) : rule.update.operator = rule.operator := by
  rcases update_cases rule with ⟨-, heq⟩ | ⟨entry, -, -, ⟨items, -, heq⟩ | ⟨-, heq⟩⟩
  · rw [heq]
  · rw [heq]
  · rw [heq]

/-- The current types are not former types, and their fields are no header fields. -/
theorem formerTypes_current : ∀ entry ∈ formerTypes,
    formerType? entry.current = none ∧ isHeader entry.currentKey = false := by
  decide

/-- No two former types have one name, and none is named like a rule without a type. -/
theorem formerTypes_former : ∀ entry ∈ formerTypes,
    entry.former ≠ defaultType ∧ isHeader entry.formerKey = false ∧
      formerType? entry.former = some entry := by
  decide

/-- The rule without the parameters that share their key with a kept field. -/
def unshadowed (rule : Rule) : Rule :=
  { rule with params := rule.params.filter fun key _ => !rule.extra.contains key }

/-- Every field of the rule is of the kind that reading files there, and the type is a current
one. -/
structure Filed (rule : Rule) : Prop where
  current : formerType? rule.ruleType = none
  param : ∀ {key value}, rule.params.get? key = some value → isHeader key = false ∧ value.Storable
  extra : ∀ {key json}, rule.extra.get? key = some json → isExtra key json = true
  defaultType : rule.extra.contains typeKey = true → rule.ruleType = Rule.defaultType

/-- A stored operator that is no text stands for the usual one. -/
def readOperator (rule : Rule) : String :=
  if rule.extra.contains operatorKey then defaultOperator else rule.operator

/-- What is left of a rule after writing and reading it. -/
def reread (rule : Rule) : Rule := { rule.unshadowed with operator := rule.readOperator }

section Filed

variable {rule : Rule}

theorem Filed.param_eq_none (h : rule.Filed) {key : String} (hkey : isHeader key = true) :
    rule.params.get? key = none := by
  cases hparam : rule.params.get? key with
  | none => rfl
  | some value => exact absurd hkey (by simp [(h.param hparam).1])

/-- A header field that was kept is no text. -/
theorem Filed.textOf?_extra (h : rule.Filed) {key : String} {json : Json}
    (hkey : isHeader key = true) (hextra : rule.extra.get? key = some json) :
    textOf? json = none := by
  have hjson := h.extra hextra
  unfold isExtra at hjson
  rw [if_pos hkey] at hjson
  exact Option.isNone_iff_eq_none.mp hjson

theorem Filed.textField_typeKey (h : rule.Filed) :
    textField rule.toFields typeKey Rule.defaultType = rule.ruleType := by
  unfold textField
  cases hextra : rule.extra.get? typeKey with
  | some json =>
    rw [get?_toFields_of_extra hextra, Option.bind_some, h.textOf?_extra isHeader_typeKey hextra]
    exact (h.defaultType (Fields.contains_iff_exists.mpr ⟨json, hextra⟩)).symm
  | none =>
    rw [get?_toFields_of_none hextra (h.param_eq_none isHeader_typeKey), if_neg (by decide),
      if_pos rfl]
    rfl

theorem Filed.textField_operatorKey (h : rule.Filed) :
    textField rule.toFields operatorKey defaultOperator = rule.readOperator := by
  unfold textField readOperator Fields.contains
  cases hextra : rule.extra.get? operatorKey with
  | some json =>
    rw [get?_toFields_of_extra hextra, Option.bind_some,
      h.textOf?_extra isHeader_operatorKey hextra]
    rfl
  | none =>
    rw [get?_toFields_of_none hextra (h.param_eq_none isHeader_operatorKey), if_pos rfl]
    rfl

theorem Filed.params_toFields (h : rule.Filed) :
    rule.toFields.filterMap paramOf? = rule.unshadowed.params := by
  apply Fields.ext_get?
  intro key
  rw [Fields.get?_filterMap, unshadowed, Fields.get?_filter]
  unfold Fields.contains
  cases hextra : rule.extra.get? key with
  | some json =>
    rw [get?_toFields_of_extra hextra, Option.bind_some, paramOf?_eq_none (h.extra hextra)]
    cases rule.params.get? key <;> rfl
  | none =>
    cases hparam : rule.params.get? key with
    | some value =>
      obtain ⟨hkey, hvalue⟩ := h.param hparam
      rw [get?_toFields_of_param hextra hparam, Option.bind_some, paramOf?_toJson hkey hvalue]
      rfl
    | none =>
      cases hget : rule.toFields.get? key with
      | none => rfl
      | some json =>
        obtain ⟨hkey, -⟩ := isHeader_of_get?_toFields hextra hparam hget
        rw [Option.bind_some, paramOf?, if_pos hkey]
        rfl

theorem Filed.extra_toFields (h : rule.Filed) : rule.toFields.filter isExtra = rule.extra := by
  apply Fields.ext_get?
  intro key
  rw [Fields.get?_filter]
  cases hextra : rule.extra.get? key with
  | some json => rw [get?_toFields_of_extra hextra, Option.filter_some, if_pos (h.extra hextra)]
  | none =>
    cases hparam : rule.params.get? key with
    | some value =>
      obtain ⟨hkey, hvalue⟩ := h.param hparam
      rw [get?_toFields_of_param hextra hparam, Option.filter_some, isExtra_toJson hkey hvalue]
      rfl
    | none =>
      cases hget : rule.toFields.get? key with
      | none => rfl
      | some json =>
        obtain ⟨hkey, s, rfl⟩ := isHeader_of_get?_toFields hextra hparam hget
        rw [Option.filter_some, isExtra, if_pos hkey]
        rfl

/-- Writing a rule and reading it back loses the shadowed parameters, and an operator that a kept
field stands in for; nothing else changes. -/
theorem Filed.ofJson?_toJson (h : rule.Filed) : ofJson? rule.toJson = some rule.reread := by
  have hread : ofFields rule.toFields = rule.reread := by
    rw [ofFields, h.textField_typeKey, h.textField_operatorKey, h.params_toFields,
      h.extra_toFields]
    rfl
  rw [ofJson?, toJson, Json.view_object]
  refine congrArg some ?_
  rw [hread]
  exact update_of_current h.current

end Filed

section Reading

variable (fields : Fields Json)

/-- A header field that is kept is no text, so its fallback is read. -/
theorem textField_of_extra {key : String} (fallback : String) (hkey : isHeader key = true)
    (h : (ofFields fields).extra.contains key = true) :
    textField fields key fallback = fallback := by
  obtain ⟨json, hjson⟩ := Fields.contains_iff_exists.mp h
  rw [ofFields, Fields.get?_filter, Option.filter_eq_some_iff, isExtra, if_pos hkey,
    Option.isNone_iff_eq_none] at hjson
  rw [textField, hjson.1, Option.bind_some, hjson.2, Option.getD_none]

theorem readOperator_update_ofFields :
    (ofFields fields).update.readOperator = (ofFields fields).update.operator := by
  rw [readOperator, extra_update, operator_update]
  split
  · rename_i h
    exact (textField_of_extra fields defaultOperator isHeader_operatorKey h).symm
  · rfl

theorem param_ofFields {key : String} {value : Value}
    (h : (ofFields fields).params.get? key = some value) :
    ∃ json, fields.get? key = some json ∧ paramOf? key json = some value := by
  rw [ofFields, Fields.get?_filterMap] at h
  exact Option.bind_eq_some_iff.mp h

theorem extra_ofFields {key : String} {json : Json} :
    (ofFields fields).extra.get? key = some json ↔
      fields.get? key = some json ∧ isExtra key json = true := by
  rw [ofFields, Fields.get?_filter, Option.filter_eq_some_iff]

theorem filed_update_ofFields : (ofFields fields).update.Filed := by
  have hparam : ∀ {key value}, (ofFields fields).params.get? key = some value →
      isHeader key = false ∧ value.Storable := by
    intro key value h
    obtain ⟨json, -, hjson⟩ := param_ofFields fields h
    exact isHeader_of_paramOf? hjson
  have hextra : ∀ {key json}, (ofFields fields).extra.get? key = some json →
      isExtra key json = true := fun h => ((extra_ofFields fields).mp h).2
  have hdefault : (ofFields fields).extra.contains typeKey = true →
      (ofFields fields).ruleType = defaultType :=
    textField_of_extra fields defaultType isHeader_typeKey
  rcases update_cases (ofFields fields) with ⟨hcurrent, heq⟩ | ⟨entry, hentry, hformer, hupdate⟩
  · rw [heq]
    exact ⟨hcurrent, hparam, hextra, hdefault⟩
  · obtain ⟨hcurrent, hkey⟩ := formerTypes_current entry hentry
    have htype : (ofFields fields).extra.contains typeKey = true → entry.current = defaultType := by
      intro h
      exact absurd (hformer.symm.trans (hdefault h)) (formerTypes_former entry hentry).1
    rcases hupdate with ⟨items, -, heq⟩ | ⟨-, heq⟩
    · rw [heq]
      refine ⟨hcurrent, ?_, hextra, htype⟩
      intro key value h
      rw [Fields.get?_insert] at h
      split at h
      · rename_i heqKey
        cases h
        exact ⟨heqKey ▸ hkey, trivial⟩
      · exact hparam h
    · rw [heq]
      exact ⟨hcurrent, hparam, hextra, htype⟩

theorem exists_fields_of_ofJson? {json : Json} {rule : Rule} (h : ofJson? json = some rule) :
    ∃ fields, json = .object fields ∧ rule = (ofFields fields).update := by
  unfold ofJson? at h
  split at h
  · rename_i fields hview
    cases h
    exact ⟨fields, Json.eq_of_view_eq (hview.trans (Json.view_object fields).symm), rfl⟩
  · cases h

end Reading

/-- No parameter shares its key with a kept field. -/
def KeysApart (rule : Rule) : Prop :=
  ∀ key, rule.params.get? key = none ∨ rule.extra.get? key = none

/-- Parameters that share a key with a kept field are lists, which no operator is lifted from. -/
def ShadowsLists (rule : Rule) : Prop :=
  ∀ key value, rule.params.get? key = some value → rule.extra.contains key = true →
    ∃ items, value = .list items

/-- The stored rules whose list a former type would turn into a parameter under a key at which
something unreadable is stored. -/
def LosesList (fields : Fields Json) : Prop :=
  ∃ entry ∈ formerTypes, fields.get? typeKey = some (.text entry.former) ∧
    (∃ json items, fields.get? entry.formerKey = some json ∧
      Value.ofJson? json = some (.list items)) ∧
    ∃ json, fields.get? entry.currentKey = some json ∧ Value.Unreadable json

section Shadows

variable {fields : Fields Json}

theorem extra_eq_none_of_param {key : String} {value : Value}
    (h : (ofFields fields).params.get? key = some value) :
    (ofFields fields).extra.get? key = none := by
  obtain ⟨json, hget, hparam⟩ := param_ofFields fields h
  cases hextra : (ofFields fields).extra.get? key with
  | none => rfl
  | some other =>
    obtain ⟨hother, hisExtra⟩ := (extra_ofFields fields).mp hextra
    cases hget.symm.trans hother
    rw [paramOf?_eq_none hisExtra] at hparam
    cases hparam

theorem get?_typeKey_iff {name : String} (hname : name ≠ defaultType) :
    (ofFields fields).ruleType = name ↔ fields.get? typeKey = some (.text name) := by
  constructor
  · intro h
    simp only [ofFields, textField] at h
    cases hget : fields.get? typeKey with
    | none =>
      rw [hget] at h
      exact absurd h.symm hname
    | some json =>
      rw [hget, Option.bind_some] at h
      unfold textOf? at h
      split at h
      · rename_i s hview
        cases h
        exact congrArg some (Json.eq_of_view_eq hview)
      · exact absurd h.symm hname
  · intro h
    simp only [ofFields, textField, h]
    rfl

theorem param_ofFields_iff {key : String} {value : Value} (hkey : isHeader key = false) :
    (ofFields fields).params.get? key = some value ↔
      ∃ json, fields.get? key = some json ∧ Value.ofJson? json = some value := by
  rw [ofFields, Fields.get?_filterMap, Option.bind_eq_some_iff]
  simp only [paramOf?, hkey, Bool.false_eq_true, if_false]

theorem shadowsLists_update_ofFields : (ofFields fields).update.ShadowsLists := by
  have habsent : (ofFields fields).ShadowsLists := by
    intro key value hparam hextra
    rw [Fields.contains, extra_eq_none_of_param hparam] at hextra
    cases hextra
  rcases update_cases (ofFields fields) with ⟨-, heq⟩ | ⟨entry, -, -, ⟨items, -, heq⟩ | ⟨-, heq⟩⟩
  · rw [heq]
    exact habsent
  · rw [heq]
    intro key value hparam hextra
    rw [Fields.get?_insert] at hparam
    split at hparam
    · cases hparam
      exact ⟨items, rfl⟩
    · exact habsent key value hparam hextra
  · rw [heq]
    exact habsent

theorem keysApart_ofFields : (ofFields fields).KeysApart := by
  intro key
  cases hparam : (ofFields fields).params.get? key with
  | none => exact .inl rfl
  | some value => exact .inr (extra_eq_none_of_param hparam)

theorem KeysApart.insert_iff {rule : Rule} (h : rule.KeysApart) (ruleType key : String)
    (value : Value) :
    KeysApart { rule with ruleType := ruleType, params := rule.params.insert key value } ↔
      rule.extra.get? key = none := by
  constructor
  · intro hinsert
    rcases hinsert key with hparam | hextra
    · rw [Fields.get?_insert, if_pos rfl] at hparam
      cases hparam
    · exact hextra
  · intro hextra other
    by_cases hkey : other = key
    · exact .inr (hkey ▸ hextra)
    · rw [Fields.get?_insert, if_neg hkey]
      exact h other

theorem not_losesList_of_current (h : formerType? (ofFields fields).ruleType = none) :
    ¬LosesList fields := by
  rintro ⟨entry, hentry, htype, -, -⟩
  obtain ⟨hdefault, -, hfind⟩ := formerTypes_former entry hentry
  rw [(get?_typeKey_iff hdefault).mpr htype, hfind] at h
  cases h

/-- A rule of a former type loses its list if it has one and keeps something under the current
key. -/
theorem losesList_iff {entry : FormerType} (hentry : entry ∈ formerTypes)
    (hformer : (ofFields fields).ruleType = entry.former) :
    LosesList fields ↔
      (∃ items, (ofFields fields).params.get? entry.formerKey = some (.list items)) ∧
        ∃ json, (ofFields fields).extra.get? entry.currentKey = some json := by
  obtain ⟨hdefault, hformerKey, hfind⟩ := formerTypes_former entry hentry
  obtain ⟨-, hcurrentKey⟩ := formerTypes_current entry hentry
  constructor
  · rintro ⟨other, hother, htype, ⟨stored, items, hstored, hlist⟩, json, hjson, hunreadable⟩
    obtain ⟨hdefault', -, hfind'⟩ := formerTypes_former other hother
    rw [(get?_typeKey_iff hdefault').mpr htype] at hformer
    rw [hformer, hfind] at hfind'
    cases hfind'
    refine ⟨⟨items, (param_ofFields_iff hformerKey).mpr ⟨stored, hstored, hlist⟩⟩, json, ?_⟩
    exact (extra_ofFields fields).mpr ⟨hjson, (isExtra_of_not_isHeader hcurrentKey).mpr hunreadable⟩
  · rintro ⟨⟨items, hitems⟩, json, hextra⟩
    obtain ⟨stored, hstored, hlist⟩ := (param_ofFields_iff hformerKey).mp hitems
    obtain ⟨hjson, hisExtra⟩ := (extra_ofFields fields).mp hextra
    exact ⟨entry, hentry, (get?_typeKey_iff hdefault).mp hformer, ⟨stored, items, hstored, hlist⟩,
      json, hjson, (isExtra_of_not_isHeader hcurrentKey).mp hisExtra⟩

/-- A list is lost in exactly one way. -/
theorem keysApart_update_ofFields_iff :
    (ofFields fields).update.KeysApart ↔ ¬LosesList fields := by
  have hapart : (ofFields fields).KeysApart := keysApart_ofFields
  rcases update_cases (ofFields fields) with
    ⟨hcurrent, heq⟩ | ⟨entry, hentry, hformer, ⟨items, hitems, heq⟩ | ⟨hitems, heq⟩⟩
  · rw [heq]
    exact iff_of_true hapart (not_losesList_of_current hcurrent)
  · have hloses : LosesList fields ↔
        ∃ json, (ofFields fields).extra.get? entry.currentKey = some json :=
      (losesList_iff hentry hformer).trans (and_iff_right ⟨items, hitems⟩)
    rw [heq, hapart.insert_iff, hloses, ← Option.isSome_iff_exists, Option.not_isSome_iff_eq_none]
  · rw [heq]
    refine iff_of_true hapart fun hloses => ?_
    obtain ⟨⟨items, hlist⟩, -⟩ := (losesList_iff hentry hformer).mp hloses
    exact hitems items hlist

end Shadows

end Rule

end ShippingRules
