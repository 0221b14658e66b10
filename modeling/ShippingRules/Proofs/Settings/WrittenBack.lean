import ShippingRules.Proofs.Settings.Record

/-!
What is written back of settings that were read. No stored field is lost: the fields of the set
itself come back as they were, and so do those of its rules, except that numbers become doubles,
that lists become lists of texts, and that a former type becomes the current one, whose field then
takes the list of the former field unless something unreadable stands there.
-/
namespace ShippingRules

/-- A text, or a number with the text that it is written as. -/
inductive Json.HasText : Json → String → Prop
  | text (s : String) : HasText (.text s) s
  | number (n : Number) : HasText (.number n) n.render

/-- An array made only of texts and numbers, with their texts. -/
def Json.Lists (json : Json) (texts : List String) : Prop :=
  ∃ items, json = .array items ∧ List.Forall₂ HasText items texts

/-- How a parameter or kept field of a rule is written back. -/
inductive Json.WrittenAs : Json → Json → Prop
  | number (n : Number) :
      WrittenAs (.number n) (.number (.double n.toDouble (Value.isFinite_toDouble n)))
  | list {json : Json} {texts : List String} (lists : json.Lists texts) :
      WrittenAs json (.array (texts.map .text))
  | same {json : Json} (noNumber : ∀ n, json ≠ .number n) (noList : ∀ texts, ¬json.Lists texts) :
      WrittenAs json json

namespace Value

theorem itemText?_eq_some_iff {json : Json} {s : String} :
    itemText? json = some s ↔ json.HasText s := by
  constructor
  · intro h
    unfold itemText? at h
    split at h
    · rename_i hview
      cases h
      rw [Json.eq_of_view_eq (b := .text s) hview]
      exact .text s
    · rename_i n hview
      cases h
      rw [Json.eq_of_view_eq (b := .number n) hview]
      exact .number n
    · cases h
  · intro h
    cases h <;> rfl

theorem itemTexts?_eq_some_iff {items : List Json} {texts : List String} :
    itemTexts? items = some texts ↔ List.Forall₂ Json.HasText items texts := by
  induction items generalizing texts with
  | nil =>
    rw [List.forall₂_nil_left_iff, itemTexts?, Option.some.injEq]
    exact eq_comm
  | cons item rest ih =>
    rw [List.forall₂_cons_left_iff]
    simp only [itemTexts?, Option.bind_eq_bind, Option.bind_eq_some_iff, itemText?_eq_some_iff, ih]
    constructor
    · rintro ⟨s, hitem, tail, hrest, heq⟩
      cases heq
      exact ⟨s, tail, hitem, hrest, rfl⟩
    · rintro ⟨s, tail, hitem, hrest, rfl⟩
      exact ⟨s, hitem, tail, hrest, rfl⟩

theorem ofJson?_eq_list_iff {json : Json} {texts : List String} :
    ofJson? json = some (.list texts) ↔ json.Lists texts := by
  constructor
  · intro h
    unfold ofJson? at h
    split at h
    · cases h
    · cases h
    · cases h
    · rename_i items hview
      obtain ⟨found, hfound, heq⟩ := Option.map_eq_some_iff.mp h
      cases heq
      exact ⟨items, Json.eq_of_view_eq (hview.trans (Json.view_array items).symm),
        itemTexts?_eq_some_iff.mp hfound⟩
    · cases h
    · cases h
  · rintro ⟨items, rfl, hitems⟩
    rw [ofJson?, Json.view_array]
    exact congrArg (Option.map list) (itemTexts?_eq_some_iff.mpr hitems)

theorem writtenAs_self {json : Json} (hnumber : ∀ x, ofJson? json ≠ some (.number x))
    (hlist : ∀ texts, ofJson? json ≠ some (.list texts)) : json.WrittenAs json := by
  refine .same ?_ fun texts hlists => hlist texts (ofJson?_eq_list_iff.mpr hlists)
  rintro n rfl
  exact hnumber n.toDouble rfl

theorem writtenAs_self_of_unreadable {json : Json} (h : Unreadable json) :
    json.WrittenAs json := by
  have hnone := (ofJson?_eq_none_iff json).mpr h
  refine writtenAs_self ?_ ?_
  · intro x hnumber
    cases hnone.symm.trans hnumber
  · intro texts hlist
    cases hnone.symm.trans hlist

/-- A parameter is written back in the form of its kind. -/
theorem writtenAs_toJson {json : Json} {value : Value} (h : ofJson? json = some value) :
    json.WrittenAs value.toJson := by
  unfold ofJson? at h
  split at h
  · rename_i b hview
    cases h
    rw [Json.eq_of_view_eq (b := .bool b) hview]
    exact writtenAs_self (fun x h => by cases h) (fun texts h => by cases h)
  · rename_i n hview
    cases h
    rw [Json.eq_of_view_eq (b := .number n) hview, toJson, Json.ofDouble,
      dif_pos (isFinite_toDouble n)]
    exact .number n
  · rename_i text hview
    cases h
    rw [Json.eq_of_view_eq (b := .text text) hview]
    exact writtenAs_self (fun x h => by cases h) (fun texts h => by cases h)
  · rename_i items hview
    obtain ⟨texts, htexts, heq⟩ := Option.map_eq_some_iff.mp h
    cases heq
    exact .list ⟨items, Json.eq_of_view_eq (hview.trans (Json.view_array items).symm),
      itemTexts?_eq_some_iff.mp htexts⟩
  · cases h
  · cases h

end Value

namespace Rule

/-- A type name as it is written back. -/
def currentName (name : String) : String :=
  match formerType? name with
  | some entry => entry.current
  | none => name

/-- A rule of a former type that lists these texts under its former field, to which this is the
current one. -/
def Copies (stored : Fields Json) (key : String) (texts : List String) : Prop :=
  ∃ entry ∈ formerTypes, stored.get? typeKey = some (.text entry.former) ∧ key = entry.currentKey ∧
    ∃ json, stored.get? entry.formerKey = some json ∧ json.Lists texts

/-- What is written back of a stored rule. A type or operator that is no text comes back as it was
stored, a missing one as the usual one. -/
structure WrittenBack (stored written : Fields Json) : Prop where
  type : ∀ name, stored.get? typeKey = some (.text name) →
    written.get? typeKey = some (.text (currentName name))
  otherType : ∀ json, stored.get? typeKey = some json → (∀ name, json ≠ .text name) →
    written.get? typeKey = some json
  noType : stored.get? typeKey = none → written.get? typeKey = some (.text defaultType)
  operator : ∀ json, stored.get? operatorKey = some json → written.get? operatorKey = some json
  noOperator : stored.get? operatorKey = none →
    written.get? operatorKey = some (.text defaultOperator)
  unreadable : ∀ key json, isHeader key = false → stored.get? key = some json →
    Value.Unreadable json → written.get? key = some json
  copied : ∀ key texts, Copies stored key texts →
    (∀ json, stored.get? key = some json → ¬Value.Unreadable json) →
      written.get? key = some (.array (texts.map .text))
  field : ∀ key json, isHeader key = false → stored.get? key = some json →
    (∀ texts, ¬Copies stored key texts) → ∃ back, written.get? key = some back ∧ json.WrittenAs back
  noField : ∀ key, isHeader key = false → stored.get? key = none →
    (∀ texts, ¬Copies stored key texts) → written.get? key = none

theorem ruleType_update (rule : Rule) : rule.update.ruleType = currentName rule.ruleType := by
  unfold update currentName
  cases formerType? rule.ruleType with
  | none => rfl
  | some entry =>
    dsimp only
    split <;> rfl

section Updated

variable {stored : Fields Json} {key : String}

theorem formerType?_ofFields {entry : FormerType} (hentry : entry ∈ formerTypes)
    (htype : stored.get? typeKey = some (.text entry.former)) :
    formerType? (ofFields stored).ruleType = some entry := by
  obtain ⟨hdefault, -, hfind⟩ := formerTypes_former entry hentry
  rw [(get?_typeKey_iff hdefault).mpr htype, hfind]

theorem isHeader_of_copies {texts : List String} (h : Copies stored key texts) :
    isHeader key = false := by
  obtain ⟨entry, hentry, -, rfl, -⟩ := h
  exact (formerTypes_current entry hentry).2

theorem param_update_of_copies {texts : List String} (h : Copies stored key texts) :
    (ofFields stored).update.params.get? key = some (.list texts) := by
  obtain ⟨entry, hentry, htype, rfl, json, hjson, hlists⟩ := h
  obtain ⟨-, hformerKey, -⟩ := formerTypes_former entry hentry
  have hlist : (ofFields stored).get? entry.formerKey = some (.list texts) :=
    (param_ofFields_iff hformerKey).mpr ⟨json, hjson, Value.ofJson?_eq_list_iff.mpr hlists⟩
  unfold update
  rw [formerType?_ofFields hentry htype]
  simp only [hlist]
  rw [Fields.get?_insert, if_pos rfl]

theorem param_update_of_not_copies (h : ∀ texts, ¬Copies stored key texts) :
    (ofFields stored).update.params.get? key = (ofFields stored).params.get? key := by
  rcases update_cases (ofFields stored) with
    ⟨-, heq⟩ | ⟨entry, hentry, hformer, ⟨items, hitems, heq⟩ | ⟨-, heq⟩⟩
  · rw [heq]
  · rw [heq]
    dsimp only
    rw [Fields.get?_insert, if_neg]
    rintro rfl
    obtain ⟨hdefault, hformerKey, -⟩ := formerTypes_former entry hentry
    obtain ⟨json, hjson, hlist⟩ := (param_ofFields_iff hformerKey).mp hitems
    exact h items ⟨entry, hentry, (get?_typeKey_iff hdefault).mp hformer, rfl, json, hjson,
      Value.ofJson?_eq_list_iff.mp hlist⟩
  · rw [heq]

theorem get?_written_of_isExtra {json : Json} (hjson : stored.get? key = some json)
    (hextra : isExtra key json = true) :
    (ofFields stored).update.toFields.get? key = some json := by
  apply get?_toFields_of_extra
  rw [extra_update]
  exact (extra_ofFields stored).mpr ⟨hjson, hextra⟩

theorem extra_update_eq_none (h : ∀ json, stored.get? key = some json → isExtra key json = false) :
    (ofFields stored).update.extra.get? key = none := by
  rw [extra_update]
  cases hextra : (ofFields stored).extra.get? key with
  | none => rfl
  | some json =>
    obtain ⟨hjson, hkept⟩ := (extra_ofFields stored).mp hextra
    rw [h json hjson] at hkept
    cases hkept

/-- What is written under a header that is missing or a text. -/
theorem get?_written_of_isHeader (hkey : isHeader key = true)
    (h : ∀ json, stored.get? key = some json → isExtra key json = false) :
    (ofFields stored).update.toFields.get? key =
      if key = operatorKey then some (Json.text (ofFields stored).operator)
      else some (Json.text (currentName (ofFields stored).ruleType)) := by
  rw [get?_toFields_of_none (extra_update_eq_none h)
    ((filed_update_ofFields stored).param_eq_none hkey), operator_update, ruleType_update]
  rcases isHeader_eq_true_iff.mp hkey with rfl | rfl
  · rfl
  · rfl

theorem isExtra_eq_false_of_text {name : String} (hkey : isHeader key = true)
    (h : stored.get? key = some (.text name)) :
    ∀ json, stored.get? key = some json → isExtra key json = false := by
  intro json hjson
  cases h.symm.trans hjson
  rw [isExtra, if_pos hkey]
  rfl

theorem isExtra_eq_false_of_none (h : stored.get? key = none) :
    ∀ json, stored.get? key = some json → isExtra key json = false := by
  intro json hjson
  cases h.symm.trans hjson

theorem textField_of_text {name : String} (fallback : String)
    (h : stored.get? key = some (.text name)) : textField stored key fallback = name := by
  rw [textField, h]
  rfl

theorem textField_of_none (fallback : String) (h : stored.get? key = none) :
    textField stored key fallback = fallback := by
  rw [textField, h]
  rfl

end Updated

/-- No field of a stored rule is lost when the rule is read and written back. -/
theorem writtenBack_toFields (stored : Fields Json) :
    WrittenBack stored (ofFields stored).update.toFields where
  type := by
    intro name h
    rw [get?_written_of_isHeader isHeader_typeKey (isExtra_eq_false_of_text isHeader_typeKey h),
      if_neg (by decide), ofFields, textField_of_text defaultType h]
  otherType := by
    intro json hjson hname
    exact get?_written_of_isExtra hjson ((isExtra_of_isHeader isHeader_typeKey).mpr hname)
  noType := by
    intro h
    rw [get?_written_of_isHeader isHeader_typeKey (isExtra_eq_false_of_none h),
      if_neg (by decide), ofFields, textField_of_none defaultType h]
    rfl
  operator := by
    intro json hjson
    cases hextra : isExtra operatorKey json with
    | true => exact get?_written_of_isExtra hjson hextra
    | false =>
      have htext : ∃ name, json = .text name := by
        by_contra hnone
        have hkept := (isExtra_of_isHeader isHeader_operatorKey).mpr (not_exists.mp hnone)
        rw [hextra] at hkept
        cases hkept
      obtain ⟨name, rfl⟩ := htext
      rw [get?_written_of_isHeader isHeader_operatorKey
          (isExtra_eq_false_of_text isHeader_operatorKey hjson),
        if_pos rfl, ofFields, textField_of_text defaultOperator hjson]
  noOperator := by
    intro h
    rw [get?_written_of_isHeader isHeader_operatorKey (isExtra_eq_false_of_none h), if_pos rfl,
      ofFields, textField_of_none defaultOperator h]
  unreadable := by
    intro key json hkey hjson hunreadable
    exact get?_written_of_isExtra hjson ((isExtra_of_not_isHeader hkey).mpr hunreadable)
  copied := by
    intro key texts hcopies hreadable
    have hkey := isHeader_of_copies hcopies
    have hextra : (ofFields stored).update.extra.get? key = none := by
      apply extra_update_eq_none
      intro json hjson
      exact Bool.eq_false_iff.mpr fun hkept =>
        hreadable json hjson ((isExtra_of_not_isHeader hkey).mp hkept)
    exact get?_toFields_of_param hextra (param_update_of_copies hcopies)
  field := by
    intro key json hkey hjson hcopies
    cases hvalue : Value.ofJson? json with
    | none =>
      have hunreadable := (Value.ofJson?_eq_none_iff json).mp hvalue
      exact ⟨json, get?_written_of_isExtra hjson ((isExtra_of_not_isHeader hkey).mpr hunreadable),
        Value.writtenAs_self_of_unreadable hunreadable⟩
    | some value =>
      have hparam := (param_ofFields_iff hkey).mpr ⟨json, hjson, hvalue⟩
      have hextra : (ofFields stored).update.extra.get? key = none := by
        rw [extra_update]
        exact extra_eq_none_of_param hparam
      rw [← param_update_of_not_copies hcopies] at hparam
      exact ⟨value.toJson, get?_toFields_of_param hextra hparam, Value.writtenAs_toJson hvalue⟩
  noField := by
    intro key hkey hnone hcopies
    have hparam : (ofFields stored).update.params.get? key = none := by
      rw [param_update_of_not_copies hcopies, ofFields, Fields.get?_filterMap, hnone]
      rfl
    have hheader : key ≠ operatorKey ∧ key ≠ typeKey := by
      rw [← not_or, or_comm, ← isHeader_eq_true_iff, hkey]
      exact Bool.false_ne_true
    rw [get?_toFields_of_none (extra_update_eq_none (isExtra_eq_false_of_none hnone)) hparam,
      if_neg hheader.1, if_neg hheader.2]

end Rule

namespace RuleSet

def objectOf? (json : Json) : Option (Fields Json) :=
  match json.view with
  | .object fields => some fields
  | _ => none

/-- The objects among the stored rules, in their order; none if these are no array. -/
def storedRules (stored : Fields Json) : List (Fields Json) :=
  match (stored.get? rulesKey).map Json.view with
  | some (.array items) => items.filterMap objectOf?
  | _ => []

/-- What is written back of stored settings. -/
structure WrittenBack (stored written : Fields Json) : Prop where
  other : ∀ key, isReserved key = false → written.get? key = stored.get? key
  flag : ∀ key ∈ [hideKey, disableKey], ∃ b, written.get? key = some (.bool b) ∧
    (b = true ↔ stored.get? key = some (.bool true))
  noMode : stored.get? matchTypeKey = none ∨ stored.get? matchTypeKey = some .null →
    written.get? matchTypeKey = some (.text "all")
  mode : ∀ json, stored.get? matchTypeKey = some json → json ≠ .null →
    written.get? matchTypeKey = some json
  rules : ∃ rules, written.get? rulesKey = some (.array (rules.map Json.object)) ∧
    List.Forall₂ Rule.WrittenBack (storedRules stored) rules

section Read

variable {stored : Fields Json}

theorem ofJson?_eq_map (json : Json) :
    Rule.ofJson? json = (objectOf? json).map fun rule => (Rule.ofFields rule).update := by
  unfold Rule.ofJson? objectOf?
  cases json.view <;> rfl

theorem rules_ofFields :
    (ofFields stored).rules = (storedRules stored).map fun rule => (Rule.ofFields rule).update := by
  change readRules (stored.get? rulesKey) = _
  unfold readRules storedRules
  cases stored.get? rulesKey with
  | none => rfl
  | some json =>
    dsimp only [Option.map_some]
    cases json.view with
    | array items =>
      dsimp only
      rw [List.map_filterMap]
      exact List.filterMap_congr fun item _ => ofJson?_eq_map item
    | _ => rfl

theorem writtenMode_ofFields_of_some {json : Json} (h : stored.get? matchTypeKey = some json)
    (hnull : json ≠ .null) : (ofFields stored).writtenMode = json := by
  by_cases hall : json = .text "all"
  · subst hall
    simp only [writtenMode, ofFields, h]
    rfl
  · by_cases hany : json = .text "any"
    · subst hany
      simp only [writtenMode, ofFields, h]
      rfl
    · have hmode := (modeOf?_eq_none_iff json).mpr ⟨hnull, hall, hany⟩
      simp only [writtenMode, ofFields, h, readMode, hmode, Option.getD_some]

theorem writtenMode_ofFields_of_none
    (h : stored.get? matchTypeKey = none ∨ stored.get? matchTypeKey = some .null) :
    (ofFields stored).writtenMode = .text "all" := by
  rcases h with h | h
  · simp only [writtenMode, ofFields, h]
    rfl
  · simp only [writtenMode, ofFields, h]
    rfl

end Read

theorem writtenBack_toFields (stored : Fields Json) :
    WrittenBack stored (ofFields stored).toFields where
  other := by
    intro key hkey
    rw [get?_toFields_of_not_isReserved _ hkey, ofFields, Fields.get?_filter, hkey]
    cases stored.get? key <;> rfl
  flag := by
    intro key hkey
    rcases List.mem_pair.mp hkey with rfl | rfl
    · exact ⟨_, get?_toFields_hideKey _, flag_eq_true_iff⟩
    · exact ⟨_, get?_toFields_disableKey _, flag_eq_true_iff⟩
  noMode := by
    intro h
    rw [get?_toFields_matchTypeKey, writtenMode_ofFields_of_none h]
  mode := by
    intro json hjson hnull
    rw [get?_toFields_matchTypeKey, writtenMode_ofFields_of_some hjson hnull]
  rules := by
    refine ⟨(ofFields stored).rules.map Rule.toFields, ?_, ?_⟩
    · rw [get?_toFields_rulesKey, List.map_map]
      rfl
    · rw [rules_ofFields, List.map_map, List.forall₂_map_right_iff, List.forall₂_same]
      exact fun rule _ => Rule.writtenBack_toFields rule

/-- Settings that are an object can be read, and no field of theirs is lost when what was read is
written back. -/
theorem toJson_ofJson (stored : Fields Json) :
    ∃ set written, ofJson (.object stored) = .ok set ∧ set.toJson = .object written ∧
      WrittenBack stored written := by
  refine ⟨ofFields stored, (ofFields stored).toFields, ?_, rfl, writtenBack_toFields stored⟩
  rw [ofJson, Json.view_object]

end RuleSet

end ShippingRules
