import ShippingRules.Proofs.Sameness
import ShippingRules.Proofs.Settings.StoredRule
import ShippingRules.Settings.Record

/-!
Which rule sets survive being written and read. Reading files every field in its place, so a set is
read back unchanged only if its own fields stand in their places; and then it is, unless one rule
has a parameter and a kept field under one key.
-/
namespace ShippingRules

namespace Value

theorem isNone_itemText?_of_same {a b : Json} (h : a.same b = true) :
    (itemText? a).isNone = (itemText? b).isNone := by
  have halike := Json.alike_of_same h
  unfold itemText?
  cases ha : a.view <;> cases hb : b.view <;> rw [ha, hb] at halike <;> first | rfl | cases halike

theorem isNone_itemTexts?_of_same {as bs : List Json}
    (h : List.Forall₂ (fun a b => a.same b = true) as bs) :
    (itemTexts? as).isNone = (itemTexts? bs).isNone := by
  induction h with
  | nil => rfl
  | cons hab _ ih =>
    have hhead := isNone_itemText?_of_same hab
    simp only [itemTexts?, Option.bind_eq_bind]
    revert hhead ih
    cases itemText? _ <;> cases itemText? _ <;> cases itemTexts? _ <;> cases itemTexts? _ <;> simp

theorem isNone_ofJson?_of_same {a b : Json} (h : a.same b = true) :
    (ofJson? a).isNone = (ofJson? b).isNone := by
  have halike := Json.alike_of_same h
  unfold ofJson?
  cases ha : a.view with
  | array as =>
    cases hb : b.view with
    | array bs =>
      rw [ha, hb] at halike
      simp only [Option.isNone_map]
      exact isNone_itemTexts?_of_same halike
    | _ =>
      rw [ha, hb] at halike
      cases halike
  | _ => cases hb : b.view <;> rw [ha, hb] at halike <;> first | rfl | cases halike

theorem storable_of_same {v w : Value} (h : v.same w = true) (hv : v.Storable) : w.Storable := by
  unfold same at h
  split at h
  · exact Double.isFinite_of_same h hv
  · exact of_decide_eq_true h ▸ hv

end Value

namespace Rule

/-- The rules that are read back as they were written. -/
structure Restorable (rule : Rule) : Prop where
  current : ∀ entry ∈ formerTypes, rule.ruleType ≠ entry.former
  header : ∀ key, isHeader key = true → rule.params.get? key = none
  storable : ∀ key value, rule.params.get? key = some value → value.Storable
  apart : rule.KeysApart
  unreadable : ∀ key json, rule.extra.get? key = some json → isHeader key = false →
    Value.Unreadable json
  type : ∀ json, rule.extra.get? typeKey = some json →
    (∀ s, json ≠ .text s) ∧ rule.ruleType = defaultType
  operator : ∀ json, rule.extra.get? operatorKey = some json →
    (∀ s, json ≠ .text s) ∧ rule.operator = defaultOperator

/-- The rules that reading can yield, but for the parameters that share a key with a kept field. -/
structure Settled (rule : Rule) : Prop where
  filed : rule.Filed
  operator : rule.readOperator = rule.operator

theorem settled_update_ofFields (fields : Fields Json) : (ofFields fields).update.Settled :=
  ⟨filed_update_ofFields fields, readOperator_update_ofFields fields⟩

theorem formerType?_eq_none_iff (ruleType : String) :
    formerType? ruleType = none ↔ ∀ entry ∈ formerTypes, ruleType ≠ entry.former := by
  rw [formerType?, List.find?_eq_none]
  constructor
  · intro h entry hentry heq
    exact h entry hentry (beq_iff_eq.mpr heq.symm)
  · intro h entry hentry hcon
    exact h entry hentry (eq_of_beq hcon).symm

section Settled

variable {rule : Rule}

theorem Restorable.settled (h : rule.Restorable) : rule.Settled := by
  refine ⟨⟨(formerType?_eq_none_iff _).mpr h.current, ?_, ?_, ?_⟩, ?_⟩
  · intro key value hparam
    refine ⟨Bool.eq_false_iff.mpr fun hkey => ?_, h.storable key value hparam⟩
    rw [h.header key hkey] at hparam
    cases hparam
  · intro key json hextra
    cases hkey : isHeader key with
    | false => exact (isExtra_of_not_isHeader hkey).mpr (h.unreadable key json hextra hkey)
    | true =>
      apply (isExtra_of_isHeader hkey).mpr
      rcases isHeader_eq_true_iff.mp hkey with rfl | rfl
      · exact (h.type json hextra).1
      · exact (h.operator json hextra).1
  · intro hcontains
    obtain ⟨json, hjson⟩ := Fields.contains_iff_exists.mp hcontains
    exact (h.type json hjson).2
  · unfold readOperator
    split
    · rename_i hcontains
      obtain ⟨json, hjson⟩ := Fields.contains_iff_exists.mp hcontains
      exact (h.operator json hjson).2.symm
    · rfl

theorem Settled.restorable (h : rule.Settled) (hapart : rule.KeysApart) : rule.Restorable := by
  refine ⟨(formerType?_eq_none_iff _).mp h.filed.current, fun key => h.filed.param_eq_none,
    fun key value hparam => (h.filed.param hparam).2, hapart, ?_, ?_, ?_⟩
  · intro key json hextra hkey
    exact (isExtra_of_not_isHeader hkey).mp (h.filed.extra hextra)
  · intro json hextra
    have hcontains := Fields.contains_iff_exists.mpr ⟨json, hextra⟩
    exact ⟨(isExtra_of_isHeader isHeader_typeKey).mp (h.filed.extra hextra),
      h.filed.defaultType hcontains⟩
  · intro json hextra
    have hcontains := Fields.contains_iff_exists.mpr ⟨json, hextra⟩
    have hoperator := h.operator
    rw [readOperator, if_pos hcontains] at hoperator
    exact ⟨(isExtra_of_isHeader isHeader_operatorKey).mp (h.filed.extra hextra), hoperator.symm⟩

theorem KeysApart.unshadowed_eq (h : rule.KeysApart) : rule.unshadowed = rule := by
  have hparams : rule.params.filter (fun key _ => !rule.extra.contains key) = rule.params := by
    apply Fields.ext_get?
    intro key
    rw [Fields.get?_filter]
    rcases h key with hparam | hextra
    · rw [hparam]
      rfl
    · rw [Fields.contains, hextra]
      cases rule.params.get? key <;> rfl
  rw [unshadowed, hparams]

/-- Parameters that share a key with a kept field are missed. -/
theorem keysApart_of_contains_unshadowed
    (h : ∀ key, rule.unshadowed.params.contains key = rule.params.contains key) :
    rule.KeysApart := by
  intro key
  cases hparam : rule.params.get? key with
  | none => exact .inl rfl
  | some value =>
    have hcontains := h key
    rw [Fields.contains, Fields.contains, unshadowed, Fields.get?_filter, hparam,
      Option.filter_some, Fields.contains] at hcontains
    cases hextra : rule.extra.get? key with
    | none => exact .inr rfl
    | some json =>
      rw [hextra] at hcontains
      cases hcontains

theorem Restorable.reread_eq (h : rule.Restorable) : rule.reread = rule := by
  rw [reread, h.apart.unshadowed_eq, h.settled.operator]

end Settled

section Sameness

theorem textOf?_of_same {a b : Json} (h : a.same b = true) : textOf? a = textOf? b := by
  have halike := Json.alike_of_same h
  unfold textOf?
  cases ha : a.view <;> cases hb : b.view <;> rw [ha, hb] at halike <;>
    first | rfl | exact congrArg some halike | cases halike

theorem isExtra_of_same {a b : Json} (h : a.same b = true) (key : String) :
    isExtra key a = isExtra key b := by
  unfold isExtra
  rw [textOf?_of_same h, Value.isNone_ofJson?_of_same h]

variable {back rule : Rule}

theorem same_iff : back.same rule = true ↔
    back.ruleType = rule.ruleType ∧ back.operator = rule.operator ∧
      back.params.same Value.same rule.params = true ∧
      back.extra.same Json.same rule.extra = true := by
  simp only [same, Bool.and_eq_true, beq_iff_eq, and_assoc]

theorem Settled.of_same (hback : back.Settled) (h : back.same rule = true) : rule.Settled := by
  obtain ⟨htype, hoperator, hparams, hextra⟩ := same_iff.mp h
  refine ⟨⟨htype ▸ hback.filed.current, ?_, ?_, ?_⟩, ?_⟩
  · intro key value hget
    obtain ⟨other, hother, hsame⟩ := Fields.exists_of_same hparams hget
    obtain ⟨hkey, hvalue⟩ := hback.filed.param hother
    exact ⟨hkey, Value.storable_of_same hsame hvalue⟩
  · intro key json hget
    obtain ⟨other, hother, hsame⟩ := Fields.exists_of_same hextra hget
    rw [← isExtra_of_same hsame]
    exact hback.filed.extra hother
  · intro hcontains
    rw [← Fields.contains_of_same hextra] at hcontains
    exact htype ▸ hback.filed.defaultType hcontains
  · have hread := hback.operator
    unfold readOperator at hread ⊢
    rw [← Fields.contains_of_same hextra, ← hoperator]
    exact hread

theorem Settled.restorable_of_same (h : rule.Settled) (hsame : rule.reread.same rule = true) :
    rule.Restorable := by
  obtain ⟨-, -, hparams, -⟩ := same_iff.mp hsame
  have hunshadowed := fun key => Fields.contains_of_same hparams key
  exact h.restorable (keysApart_of_contains_unshadowed hunshadowed)

end Sameness

end Rule

namespace RuleSet

/-- The sets that are read back as they were written. -/
structure Restorable (set : RuleSet) : Prop where
  mode : ∀ json, set.unrecognizedMode = some json →
    json ≠ .null ∧ json ≠ .text "all" ∧ json ≠ .text "any" ∧ set.matchMode = .all
  extra : ∀ key ∈ [hideKey, disableKey, matchTypeKey, rulesKey], set.extra.get? key = none
  rules : ∀ rule ∈ set.rules, rule.Restorable

/-- The fields of the set itself are of the kind that reading files there. -/
structure Filed (set : RuleSet) : Prop where
  mode : ∀ {json}, set.unrecognizedMode = some json → modeOf? json = none ∧ set.matchMode = .all
  extra : ∀ {key json}, set.extra.get? key = some json → isReserved key = false

/-- What is left of a set after writing and reading it. -/
def reread (set : RuleSet) : RuleSet := { set with rules := set.rules.map Rule.reread }

theorem filed_ofFields (fields : Fields Json) : (ofFields fields).Filed := by
  constructor
  · intro json h
    simp only [ofFields] at h ⊢
    unfold readMode at h ⊢
    split at h
    · cases h
    · split at h
      · cases h
      · rename_i hmode
        cases h
        simp only [hmode, and_self]
  · intro key json h
    rw [ofFields, Fields.get?_filter, Option.filter_eq_some_iff] at h
    simpa using h.2

theorem exists_fields_of_ofJson {json : Json} {set : RuleSet} (h : ofJson json = .ok set) :
    ∃ fields, json = .object fields ∧ set = ofFields fields := by
  unfold ofJson at h
  split at h
  · rename_i fields hview
    cases h
    exact ⟨fields, Json.eq_of_view_eq (hview.trans (Json.view_object fields).symm), rfl⟩
  · cases h

theorem get?_toFields (set : RuleSet) (key : String) :
    set.toFields.get? key =
      if key = rulesKey then some (Json.array (set.rules.map Rule.toJson))
      else if key = matchTypeKey then some set.writtenMode
      else if key = disableKey then some (Json.bool set.disabledForPrivileged)
      else if key = hideKey then some (Json.bool set.hideUnconditionally)
      else set.extra.get? key := by
  rw [toFields, Fields.get?_overlay]
  simp only [Fields.ofList, List.foldl_cons, List.foldl_nil, Fields.get?_insert, Fields.get?_empty]
  split
  · rfl
  · split
    · rfl
    · split
      · rfl
      · split <;> rfl

theorem flag_bool {fields : Fields Json} {key : String} {b : Bool}
    (h : fields.get? key = some (Json.bool b)) : flag fields key = b := by
  rw [flag, h]
  rfl

theorem flag_eq_true_iff {fields : Fields Json} {key : String} :
    flag fields key = true ↔ fields.get? key = some (.bool true) := by
  constructor
  · intro h
    obtain ⟨json, hget, htrue⟩ := (Option.any_eq_true isTrue _).mp h
    unfold isTrue at htrue
    split at htrue
    · rename_i b hview
      cases htrue
      rw [hget, Json.eq_of_view_eq (b := .bool true) hview]
    · cases htrue
  · intro h
    exact flag_bool h

theorem Filed.readMode_writtenMode {set : RuleSet} (h : set.Filed) :
    readMode (some set.writtenMode) = (set.matchMode, set.unrecognizedMode) := by
  unfold writtenMode
  cases hmode : set.unrecognizedMode with
  | none =>
    have hread : modeOf? (Json.text set.matchMode.name) = some set.matchMode :=
      MatchMode.ofName?_name set.matchMode
    simp only [readMode, Option.getD_none, hread]
  | some json =>
    obtain ⟨hread, hall⟩ := h.mode hmode
    simp only [readMode, Option.getD_some, hread, hall]

theorem get?_toFields_rulesKey (set : RuleSet) :
    set.toFields.get? rulesKey = some (Json.array (set.rules.map Rule.toJson)) := by
  rw [get?_toFields, if_pos rfl]

theorem get?_toFields_matchTypeKey (set : RuleSet) :
    set.toFields.get? matchTypeKey = some set.writtenMode := by
  rw [get?_toFields, if_neg (by decide), if_pos rfl]

theorem get?_toFields_disableKey (set : RuleSet) :
    set.toFields.get? disableKey = some (Json.bool set.disabledForPrivileged) := by
  rw [get?_toFields, if_neg (by decide), if_neg (by decide), if_pos rfl]

theorem get?_toFields_hideKey (set : RuleSet) :
    set.toFields.get? hideKey = some (Json.bool set.hideUnconditionally) := by
  rw [get?_toFields, if_neg (by decide), if_neg (by decide), if_neg (by decide), if_pos rfl]

theorem isReserved_eq_true_iff {key : String} :
    isReserved key = true ↔ key ∈ [hideKey, disableKey, matchTypeKey, rulesKey] := by
  simp only [isReserved, decide_eq_true_eq, List.mem_cons, List.not_mem_nil, or_false]

theorem get?_toFields_of_not_isReserved (set : RuleSet) {key : String}
    (h : isReserved key = false) : set.toFields.get? key = set.extra.get? key := by
  have hkey : ∀ other, isReserved other = true → key ≠ other := by
    rintro other hother rfl
    rw [h] at hother
    cases hother
  rw [get?_toFields, if_neg (hkey _ (by decide)), if_neg (hkey _ (by decide)),
    if_neg (hkey _ (by decide)), if_neg (hkey _ (by decide))]

theorem Filed.extra_toFields {set : RuleSet} (h : set.Filed) :
    (set.toFields.filter fun key _ => !isReserved key) = set.extra := by
  apply Fields.ext_get?
  intro key
  rw [Fields.get?_filter]
  cases hreserved : isReserved key with
  | false =>
    rw [get?_toFields_of_not_isReserved set hreserved]
    cases set.extra.get? key <;> rfl
  | true =>
    cases hextra : set.extra.get? key with
    | none => cases set.toFields.get? key <;> rfl
    | some json =>
      have hcon := h.extra hextra
      rw [hreserved] at hcon
      cases hcon

theorem readRules_toJson {rules : List Rule} (h : ∀ rule ∈ rules, rule.Filed) :
    readRules (some (Json.array (rules.map Rule.toJson))) = rules.map Rule.reread := by
  simp only [readRules, Json.view_array]
  induction rules with
  | nil => rfl
  | cons head rest ih =>
    have hhead := (h head List.mem_cons_self).ofJson?_toJson
    rw [List.map_cons, List.filterMap_cons, hhead, List.map_cons,
      ih fun rule hrule => h rule (List.mem_cons_of_mem _ hrule)]

/-- What is read of a written set. -/
theorem Filed.ofJson_toJson {set : RuleSet} (h : set.Filed)
    (hrules : ∀ rule ∈ set.rules, rule.Filed) : ofJson set.toJson = .ok set.reread := by
  have hmode := h.readMode_writtenMode
  rw [ofJson, toJson, Json.view_object]
  simp only [ofFields, get?_toFields_matchTypeKey, get?_toFields_rulesKey, hmode,
    readRules_toJson hrules, flag_bool set.get?_toFields_hideKey,
    flag_bool set.get?_toFields_disableKey, h.extra_toFields]
  rfl

theorem mem_readRules_iff {stored : Option Json} {rule : Rule} :
    rule ∈ readRules stored ↔ ∃ items fields, stored = some (.array items) ∧
      Json.object fields ∈ items ∧ rule = (Rule.ofFields fields).update := by
  constructor
  · intro h
    unfold readRules at h
    split at h
    · cases h
    · split at h
      · rename_i items hview
        obtain ⟨item, hitem, hread⟩ := List.mem_filterMap.mp h
        obtain ⟨fields, rfl, hrule⟩ := Rule.exists_fields_of_ofJson? hread
        have hstored := Json.eq_of_view_eq (hview.trans (Json.view_array items).symm)
        exact ⟨items, fields, congrArg some hstored, hitem, hrule⟩
      · cases h
  · rintro ⟨items, fields, rfl, hitem, rfl⟩
    simp only [readRules, Json.view_array]
    apply List.mem_filterMap.mpr
    refine ⟨_, hitem, ?_⟩
    rw [Rule.ofJson?, Json.view_object]

theorem settled_of_mem_readRules {stored : Option Json} {rule : Rule}
    (h : rule ∈ readRules stored) : rule.Settled := by
  obtain ⟨items, fields, -, -, rfl⟩ := mem_readRules_iff.mp h
  exact Rule.settled_update_ofFields fields

theorem modeOf?_eq_none_iff (json : Json) :
    modeOf? json = none ↔ json ≠ .null ∧ json ≠ .text "all" ∧ json ≠ .text "any" := by
  constructor
  · intro h
    refine ⟨?_, ?_, ?_⟩
    · rintro rfl
      cases h
    · rintro rfl
      cases h
    · rintro rfl
      cases h
  · rintro ⟨hnull, hall, hany⟩
    unfold modeOf?
    split
    · rename_i hview
      exact absurd (Json.eq_of_view_eq hview) hnull
    · rename_i s hview
      have hjson : json = .text s := Json.eq_of_view_eq hview
      have hsAll : s ≠ "all" := fun hs => hall (hs ▸ hjson)
      have hsAny : s ≠ "any" := fun hs => hany (hs ▸ hjson)
      rw [MatchMode.ofName?, if_neg hsAll, if_neg hsAny]
    · rfl

theorem Restorable.filed {set : RuleSet} (h : set.Restorable) : set.Filed := by
  constructor
  · intro json hjson
    obtain ⟨hnull, hall, hany, hmode⟩ := h.mode json hjson
    exact ⟨(modeOf?_eq_none_iff json).mpr ⟨hnull, hall, hany⟩, hmode⟩
  · intro key json hjson
    refine Bool.eq_false_iff.mpr fun hkey => ?_
    rw [h.extra key (isReserved_eq_true_iff.mp hkey)] at hjson
    cases hjson

theorem Filed.restorable {set : RuleSet} (h : set.Filed)
    (hrules : ∀ rule ∈ set.rules, rule.Restorable) : set.Restorable := by
  refine ⟨?_, ?_, hrules⟩
  · intro json hjson
    obtain ⟨hread, hmode⟩ := h.mode hjson
    obtain ⟨hnull, hall, hany⟩ := (modeOf?_eq_none_iff json).mp hread
    exact ⟨hnull, hall, hany, hmode⟩
  · intro key hkey
    cases hextra : set.extra.get? key with
    | none => rfl
    | some json =>
      have hreserved := h.extra hextra
      rw [isReserved_eq_true_iff.mpr hkey] at hreserved
      cases hreserved

theorem Restorable.ofJson_toJson {set : RuleSet} (h : set.Restorable) :
    ofJson set.toJson = .ok set := by
  have hrules : set.rules.map Rule.reread = set.rules := by
    conv_rhs => rw [← List.map_id set.rules]
    exact List.map_congr_left fun rule hrule => (h.rules rule hrule).reread_eq
  rw [h.filed.ofJson_toJson fun rule hrule => (h.rules rule hrule).settled.filed, reread, hrules]

theorem Restorable.same_self {set : RuleSet} (h : set.Restorable) : set.same set = true := by
  apply RuleSet.same_self
  intro rule hrule key x hget
  exact Double.isNaN_of_isFinite ((h.rules rule hrule).storable key _ hget)

section Sameness

variable {back set : RuleSet}

theorem modeOf?_of_same {a b : Json} (h : a.same b = true) : modeOf? a = modeOf? b := by
  have halike := Json.alike_of_same h
  unfold modeOf?
  cases ha : a.view <;> cases hb : b.view <;> rw [ha, hb] at halike <;>
    first | rfl | exact congrArg MatchMode.ofName? halike | cases halike

theorem same_iff : back.same set = true ↔
    sameRules back.rules set.rules = true ∧ back.matchMode = set.matchMode ∧
      back.hideUnconditionally = set.hideUnconditionally ∧
      back.disabledForPrivileged = set.disabledForPrivileged ∧
      sameMode back.unrecognizedMode set.unrecognizedMode = true ∧
      back.extra.same Json.same set.extra = true := by
  simp only [same, Bool.and_eq_true, beq_iff_eq, and_assoc]

theorem exists_of_sameRules {as bs : List Rule} (h : sameRules as bs = true) :
    ∀ b ∈ bs, ∃ a ∈ as, a.same b = true := by
  induction as generalizing bs with
  | nil =>
    cases bs with
    | nil => nofun
    | cons b bs => cases h
  | cons a as ih =>
    cases bs with
    | nil => cases h
    | cons b bs =>
      rw [sameRules, Bool.and_eq_true] at h
      intro rule hrule
      rcases List.mem_cons.mp hrule with rfl | hrest
      · exact ⟨a, List.mem_cons_self, h.1⟩
      · obtain ⟨found, hfound, hsame⟩ := ih h.2 rule hrest
        exact ⟨found, List.mem_cons_of_mem _ hfound, hsame⟩

theorem same_of_sameRules_map {f : Rule → Rule} {rules : List Rule}
    (h : sameRules (rules.map f) rules = true) : ∀ rule ∈ rules, (f rule).same rule = true := by
  induction rules with
  | nil => nofun
  | cons head rest ih =>
    rw [List.map_cons, sameRules, Bool.and_eq_true] at h
    intro rule hrule
    rcases List.mem_cons.mp hrule with rfl | hrest
    · exact h.1
    · exact ih h.2 rule hrest

theorem Filed.of_same (hback : back.Filed) (h : back.same set = true) : set.Filed := by
  obtain ⟨-, hmatch, -, -, hmode, hextra⟩ := same_iff.mp h
  constructor
  · intro json hjson
    rw [hjson] at hmode
    cases hother : back.unrecognizedMode with
    | none =>
      rw [hother] at hmode
      cases hmode
    | some other =>
      rw [hother] at hmode
      obtain ⟨hread, hall⟩ := hback.mode hother
      exact ⟨modeOf?_of_same hmode ▸ hread, hmatch ▸ hall⟩
  · intro key json hget
    obtain ⟨other, hother, -⟩ := Fields.exists_of_same hextra hget
    exact hback.extra hother

theorem restorable_of_same (h : ofJson set.toJson = .ok back) (hsame : back.same set = true) :
    set.Restorable := by
  obtain ⟨fields, -, hback⟩ := exists_fields_of_ofJson h
  have hrulesSame := (same_iff.mp hsame).1
  have hfiled : set.Filed := Filed.of_same (hback ▸ filed_ofFields fields) hsame
  have hsettled : ∀ rule ∈ set.rules, rule.Settled := by
    intro rule hrule
    obtain ⟨other, hother, hsameRule⟩ := exists_of_sameRules hrulesSame rule hrule
    rw [hback] at hother
    exact (settled_of_mem_readRules hother).of_same hsameRule
  have hreread := hfiled.ofJson_toJson fun rule hrule => (hsettled rule hrule).filed
  cases h.symm.trans hreread
  apply hfiled.restorable
  intro rule hrule
  exact (hsettled rule hrule).restorable_of_same (same_of_sameRules_map hrulesSame rule hrule)

end Sameness

/-- A set is read back as it was written exactly if it is restorable, whether the two are compared
as they stand or as numbers compare. -/
theorem ofJson_toJson_iff (set : RuleSet) :
    (ofJson set.toJson = .ok set ↔ set.Restorable) ∧
      ((∃ back, ofJson set.toJson = .ok back ∧ back.same set = true) ↔ set.Restorable) := by
  have hrestores : set.Restorable → ofJson set.toJson = .ok set := Restorable.ofJson_toJson
  refine ⟨⟨fun h => ?_, hrestores⟩, ⟨?_, fun h => ⟨set, hrestores h, h.same_self⟩⟩⟩
  · obtain ⟨fields, -, hset⟩ := exists_fields_of_ofJson h
    apply restorable_of_same h
    apply RuleSet.same_self
    intro rule hrule key x hget
    rw [hset] at hrule
    exact Double.isNaN_of_isFinite ((settled_of_mem_readRules hrule).filed.param hget).2
  · rintro ⟨back, h, hsame⟩
    exact restorable_of_same h hsame

end RuleSet

end ShippingRules
