import ShippingRules.Cache.Blob
import ShippingRules.Proofs.Cache.Part
import ShippingRules.Proofs.Settings.Reload

/-!
A cached set is read back as it was, provided its rules have types, its instants are read back from
their literals and what it keeps as JSON is read back from its text. The payload of any set decodes,
and the types are the first thing that is checked of it.
-/
namespace ShippingRules

namespace Cache

section Header

variable {payload : Bytes}

/-- A part of the bytes that stands between others. -/
theorem part_append (front middle back : Bytes) {first count : Nat} (hfirst : front.length = first)
    (hcount : middle.length = count) : part (front ++ (middle ++ back)) first count = middle := by
  subst hfirst hcount
  rw [part, List.drop_left, List.take_left]

theorem length_checksum (payload : Bytes) : (checksum payload).length = 16 := by
  rw [checksum, List.length_take, (Blake3.hash payload).length_eq]
  rfl

theorem length_header (payload : Bytes) : (header payload).length = headerSize := by
  simp only [header, List.length_append, length_littleEndian, List.length_replicate,
    length_checksum]
  rfl

theorem part_mark (payload : Bytes) : part (header payload ++ payload) 0 4 = mark := by
  simp only [header, List.append_assoc]
  exact part_append [] mark _ rfl rfl

theorem part_revision (payload : Bytes) :
    part (header payload ++ payload) 4 2 = littleEndian 2 formatRevision := by
  simp only [header, List.append_assoc]
  exact part_append mark _ _ rfl (length_littleEndian 2 _)

theorem part_length (payload : Bytes) :
    part (header payload ++ payload) 12 4 = littleEndian 4 payload.length := by
  have happend : header payload ++ payload =
      (mark ++ littleEndian 2 formatRevision ++ littleEndian 2 writerRevision ++
        List.replicate 4 0) ++
          (littleEndian 4 payload.length ++ (checksum payload ++ payload)) := by
    simp only [header, List.append_assoc]
  rw [happend]
  exact part_append _ _ _ rfl (length_littleEndian 4 _)

theorem part_checksum (payload : Bytes) :
    part (header payload ++ payload) 16 16 = checksum payload := by
  have happend : header payload ++ payload =
      (mark ++ littleEndian 2 formatRevision ++ littleEndian 2 writerRevision ++
        List.replicate 4 0 ++ littleEndian 4 payload.length) ++ (checksum payload ++ payload) := by
    simp only [header, List.append_assoc]
  rw [happend]
  apply part_append
  · simp only [List.length_append, length_littleEndian, List.length_replicate]
    rfl
  · exact length_checksum payload

/-- The header of a payload that is not too long is recognized and agrees with it. -/
theorem payloadBytes_header (h : payload.length < Nat.pow 256 4) :
    payloadBytes (header payload ++ payload) = .ok payload := by
  have hbody : (header payload ++ payload).drop headerSize = payload :=
    List.drop_left' (length_header payload)
  have hsize : ¬(header payload ++ payload).length < headerSize := by
    rw [List.length_append, length_header]
    omega
  unfold payloadBytes
  rw [if_neg hsize, part_mark, if_neg (not_not_intro rfl), part_revision, part_length,
    part_checksum, hbody, ofLittleEndian_littleEndian 2 _ (by decide),
    ofLittleEndian_littleEndian 4 _ h]
  dsimp only
  rw [if_neg (not_not_intro rfl), if_neg (Nat.lt_irrefl _), List.take_length,
    if_neg (not_not_intro rfl)]

end Header

section Conversion

/-- An instant is kept by the cache if it is read back from its literal. -/
def Cacheable (value : Value) : Prop :=
  ∀ t, value = .temporal t → Temporal.parse? t.text = some t

theorem toValue_ofValue {value : Value} (h : Cacheable value) :
    (CachedValue.ofValue value).toValue = .ok value := by
  cases value with
  | temporal t => simp only [CachedValue.ofValue, CachedValue.toValue, h t rfl]
  | _ => rfl

theorem paramsOf_map {entries : List (String × Value)} (h : ∀ entry ∈ entries, Cacheable entry.2) :
    paramsOf (entries.map fun entry => (entry.1, CachedValue.ofValue entry.2)) = .ok entries := by
  induction entries with
  | nil => rfl
  | cons head rest ih =>
    have hhead := toValue_ofValue (h head List.mem_cons_self)
    have hrest := ih fun entry hentry => h entry (List.mem_cons_of_mem _ hentry)
    simp only [List.map_cons, paramsOf, hhead, hrest]

theorem fieldsOf_fieldsText {fields : Fields Json}
    (h : (Json.object fields).reread = some (.object fields)) :
    fieldsOf (fieldsText fields) = .ok fields := by
  rw [Json.reread] at h
  rw [fieldsOf, fieldsText, h, Option.map_some, Json.view_object]

theorem modeOf_map_render {mode : Option Json}
    (h : ∀ json, mode = some json → json.reread = some json) :
    modeOf (mode.map Json.render) = .ok mode := by
  cases mode with
  | none => rfl
  | some json =>
    have hread := h json rfl
    rw [Json.reread] at hread
    rw [Option.map_some, modeOf, hread]

/-- The rules that the cache keeps, whatever their types. -/
structure CacheableRule (rule : Rule) : Prop where
  param : ∀ {key value}, rule.params.get? key = some value → Cacheable value
  extra : (Json.object rule.extra).reread = some (.object rule.extra)

theorem toRule_ofRule {rule : Rule} (h : CacheableRule rule) :
    (CachedRule.ofRule rule).toRule = .ok rule := by
  have hparams : paramsOf (CachedRule.ofRule rule).params = .ok rule.params.entries :=
    paramsOf_map fun entry hentry => h.param (Fields.get?_eq_some_iff.mpr hentry)
  have hextra : fieldsOf (CachedRule.ofRule rule).extra = .ok rule.extra :=
    fieldsOf_fieldsText h.extra
  simp only [CachedRule.toRule, hparams, hextra, Fields.ofList_entries]
  rfl

theorem rulesOf_map {rules : List Rule} (h : ∀ rule ∈ rules, CacheableRule rule) :
    rulesOf (rules.map CachedRule.ofRule) = .ok rules := by
  induction rules with
  | nil => rfl
  | cons head rest ih =>
    have hhead := toRule_ofRule (h head List.mem_cons_self)
    have hrest := ih fun rule hrule => h rule (List.mem_cons_of_mem _ hrule)
    simp only [List.map_cons, rulesOf, hhead, hrest]

theorem firstUnsorted?_of_pairwise {keys : List String} (h : keys.Pairwise (· < ·)) :
    firstUnsorted? keys = none := by
  induction keys with
  | nil => rfl
  | cons head rest ih =>
    obtain ⟨hhead, hrest⟩ := List.pairwise_cons.mp h
    cases rest with
    | nil => rfl
    | cons next more =>
      rw [firstUnsorted?, if_pos (hhead next List.mem_cons_self)]
      exact ih hrest

theorem firstUnsorted?_params (rule : Rule) :
    firstUnsorted? ((CachedRule.ofRule rule).params.map (·.1)) = none := by
  apply firstUnsorted?_of_pairwise
  simp only [CachedRule.ofRule, List.map_map]
  exact List.pairwise_map.mpr rule.params.ascending

theorem ruleDefect?_map {rules : List Rule} (h : ∀ rule ∈ rules, rule.ruleType ≠ "") (index : Nat) :
    ruleDefect? index (rules.map CachedRule.ofRule) = none := by
  induction rules generalizing index with
  | nil => rfl
  | cons head rest ih =>
    have hhead : (CachedRule.ofRule head).ruleType ≠ "" := h head List.mem_cons_self
    rw [List.map_cons, ruleDefect?, if_neg hhead, firstUnsorted?_params]
    exact ih (fun rule hrule => h rule (List.mem_cons_of_mem _ hrule)) (index + 1)

/-- Of several rules without a type the first is reported. -/
theorem ruleDefect?_append {front back : List Rule} {rule : Rule}
    (h : ∀ earlier ∈ front, earlier.ruleType ≠ "") (hempty : rule.ruleType = "") (index : Nat) :
    ruleDefect? index ((front ++ rule :: back).map CachedRule.ofRule) =
      some (.emptyRuleType (index + front.length)) := by
  induction front generalizing index with
  | nil =>
    have hrule : (CachedRule.ofRule rule).ruleType = "" := hempty
    rw [List.nil_append, List.map_cons, ruleDefect?, if_pos hrule]
    rfl
  | cons head rest ih =>
    have hhead : (CachedRule.ofRule head).ruleType ≠ "" := h head List.mem_cons_self
    rw [List.cons_append, List.map_cons, ruleDefect?, if_neg hhead, firstUnsorted?_params]
    dsimp only
    rw [ih (fun earlier hearlier => h earlier (List.mem_cons_of_mem _ hearlier)) (index + 1),
      List.length_cons]
    congr 2
    omega

theorem defect?_ofSet (set : RuleSet) (source : Option String) :
    (Payload.ofSet set source).defect? = ruleDefect? 0 (set.rules.map CachedRule.ofRule) := by
  have hcount : (Payload.ofSet set source).ruleCount = (Payload.ofSet set source).rules.length :=
    (List.length_map _).symm
  rw [Payload.defect?, if_neg (not_not_intro hcount)]
  rfl

end Conversion

end Cache

namespace RuleSet

open Cache

/-- What a set keeps as it was stored, all of which is cached as text. -/
def kept (set : RuleSet) : List Json :=
  .object set.extra :: set.unrecognizedMode.toList ++ set.rules.map (.object ·.extra)

/-- Every number in what a set keeps is read back from its text. -/
def NumbersReadBack (set : RuleSet) : Prop := ∀ json ∈ set.kept, json.NumbersReadBack

instance (set : RuleSet) : Decidable set.NumbersReadBack :=
  inferInstanceAs (Decidable (∀ json ∈ set.kept, json.NumbersReadBack))

/-- The sets that the cache keeps, whatever the types of their rules. -/
structure Cacheable (set : RuleSet) : Prop where
  rules : ∀ rule ∈ set.rules, CacheableRule rule
  mode : ∀ json, set.unrecognizedMode = some json → json.reread = some json
  extra : (Json.object set.extra).reread = some (.object set.extra)

section Numbers

variable {set : RuleSet}

theorem NumbersReadBack.extra (h : set.NumbersReadBack) :
    (Json.object set.extra).NumbersReadBack :=
  h _ List.mem_cons_self

theorem NumbersReadBack.mode (h : set.NumbersReadBack) {json : Json}
    (hmode : set.unrecognizedMode = some json) : json.NumbersReadBack := by
  apply h json
  rw [kept, hmode]
  simp

theorem NumbersReadBack.rule (h : set.NumbersReadBack) {rule : Rule} (hrule : rule ∈ set.rules) :
    (Json.object rule.extra).NumbersReadBack :=
  h _ (List.mem_append_right _ (List.mem_map_of_mem hrule))

end Numbers

variable {set : RuleSet} {source : Option String}

theorem toSet_ofSet (h : set.Cacheable) (htypes : ∀ rule ∈ set.rules, rule.ruleType ≠ "") :
    (Payload.ofSet set source).toSet = .ok set := by
  have hrules : rulesOf (Payload.ofSet set source).rules = .ok set.rules := rulesOf_map h.rules
  have hmode : modeOf (Payload.ofSet set source).unrecognizedMode = .ok set.unrecognizedMode :=
    modeOf_map_render h.mode
  have hextra : fieldsOf (Payload.ofSet set source).extra = .ok set.extra :=
    fieldsOf_fieldsText h.extra
  rw [Payload.toSet, defect?_ofSet, ruleDefect?_map htypes]
  simp only [hrules, hmode, hextra]
  rfl

/-- What a set is cached as decodes to its payload. -/
theorem readPayload_toBytes
    (hlength : (Part.payload.write (Payload.ofSet set source)).length < Nat.pow 256 4) :
    ∃ bytes, set.toBytes source = .ok bytes ∧
      readPayload bytes = .ok (Payload.ofSet set source) := by
  have hrules : set.rules.length ≤ (Part.payload.write (Payload.ofSet set source)).length := by
    have hle := Part.length_rules_le (Payload.ofSet set source)
    rwa [Payload.ofSet, List.length_map] at hle
  have hbound : Nat.pow 256 4 ≤ Nat.pow 256 8 := by decide
  have hread := Part.restores_payload (p := Payload.ofSet set source)
    (Nat.lt_of_le_of_lt hrules (by omega)) (by omega) []
  rw [List.append_nil] at hread
  refine ⟨_, if_pos hlength, ?_⟩
  rw [readPayload, payloadBytes_header hlength]
  simp only [hread]

theorem ofBytes_toBytes
    (hlength : (Part.payload.write (Payload.ofSet set source)).length < Nat.pow 256 4) :
    ∃ bytes, set.toBytes source = .ok bytes ∧
      ofBytes bytes = (Payload.ofSet set source).toSet.mapError .defective := by
  obtain ⟨bytes, hwrite, hread⟩ := readPayload_toBytes hlength
  exact ⟨bytes, hwrite, by rw [ofBytes, hread]⟩

/-- A rule without a type is reported before anything else is looked at. -/
theorem toSet_ofSet_of_empty (front back : List Rule) {rule : Rule}
    (hrules : set.rules = front ++ rule :: back)
    (hfront : ∀ earlier ∈ front, earlier.ruleType ≠ "") (hempty : rule.ruleType = "") :
    (Payload.ofSet set source).toSet = .error (.emptyRuleType front.length) := by
  rw [Payload.toSet, defect?_ofSet, hrules, ruleDefect?_append hfront hempty, Nat.zero_add]

theorem exists_first_empty {rules : List Rule} (h : ¬∀ rule ∈ rules, rule.ruleType ≠ "") :
    ∃ front rule back, rules = front ++ rule :: back ∧
      (∀ earlier ∈ front, earlier.ruleType ≠ "") ∧ rule.ruleType = "" := by
  cases hfound : rules.find? fun rule => rule.ruleType == "" with
  | none =>
    refine absurd (fun rule hrule hempty => ?_) h
    exact List.find?_eq_none.mp hfound rule hrule (beq_iff_eq.mpr hempty)
  | some rule =>
    obtain ⟨hempty, front, back, hrules, hfront⟩ := List.find?_eq_some_iff_append.mp hfound
    refine ⟨front, rule, back, hrules, ?_, eq_of_beq hempty⟩
    intro earlier hearlier hcon
    have hbeq := hfront earlier hearlier
    rw [hcon] at hbeq
    cases hbeq

end RuleSet

namespace Engine

open Cache

variable {engine : Engine}

/-- Loading yields sets that the cache keeps, if it reads back their numbers. -/
theorem cacheable_of_loadSettings (htemplate : engine.template.Storable) {text : String}
    {set : RuleSet} (h : engine.loadSettings text = .ok set) (hnumbers : set.NumbersReadBack) :
    set.Cacheable := by
  obtain ⟨fields, hparse, rfl⟩ := loadSettings_eq_ok_iff.mp h
  have hnests : (engine.normalizeSet (RuleSet.ofFields fields)).Nests 123 :=
    (RuleSet.nests_ofFields (Json.nesting_le_of_parse? hparse)).normalizeSet engine
  refine ⟨?_, ?_, ?_⟩
  · intro rule hrule
    constructor
    · intro key value hget t ht
      have hstorable := ((filed_of_mem_rules htemplate hrule).param hget).2
      rw [ht] at hstorable
      cases hstorable
    · have hextra : (Json.object rule.extra).nesting ≤ 124 + 1 :=
        Json.nesting_object_le_iff.mpr (hnests.rules rule hrule)
      exact (hnumbers.rule hrule).reread_eq (Nat.le_trans hextra (by decide))
  · intro json hjson
    exact (hnumbers.mode hjson).reread_eq (Nat.le_trans (hnests.mode hjson) (by decide))
  · exact hnumbers.extra.reread_eq
      (Json.nesting_object_le_iff.mpr fun key json hget => hnests.extra hget)

/-- A loaded set whose numbers are read back is read back from its cached form, as it is and as
numbers compare, exactly if all its rules have a type; otherwise the first rule without one is
reported. -/
theorem ofBytes_toBytes_iff (hengine : build .standard = .ok engine) {text : String}
    {set : RuleSet} (hload : engine.loadSettings text = .ok set) (source : Option String)
    (hlength : (Part.payload.write (Payload.ofSet set source)).length < Nat.pow 256 4)
    (hnumbers : set.NumbersReadBack) :
    ∃ bytes, set.toBytes source = .ok bytes ∧
      (RuleSet.ofBytes bytes = .ok set ↔ ∀ rule ∈ set.rules, rule.ruleType ≠ "") ∧
      ((∃ back, RuleSet.ofBytes bytes = .ok back ∧ back.same set = true) ↔
        ∀ rule ∈ set.rules, rule.ruleType ≠ "") ∧
      ∀ front rule back, set.rules = front ++ rule :: back →
        (∀ earlier ∈ front, earlier.ruleType ≠ "") → rule.ruleType = "" →
          RuleSet.ofBytes bytes = .error (.defective (.emptyRuleType front.length)) := by
  have htemplate := storable_template_of_standard hengine
  have hcacheable := cacheable_of_loadSettings htemplate hload hnumbers
  have hsame : set.same set = true := by
    obtain ⟨fields, -, rfl⟩ := loadSettings_eq_ok_iff.mp hload
    exact same_self_of_loaded htemplate fields
  obtain ⟨bytes, hwrite, hread⟩ := RuleSet.ofBytes_toBytes hlength
  have herror : ∀ front rule back, set.rules = front ++ rule :: back →
      (∀ earlier ∈ front, earlier.ruleType ≠ "") → rule.ruleType = "" →
        RuleSet.ofBytes bytes = .error (.defective (.emptyRuleType front.length)) := by
    intro front rule back hrules hfront hempty
    rw [hread, RuleSet.toSet_ofSet_of_empty front back hrules hfront hempty]
    rfl
  have hok : (∀ rule ∈ set.rules, rule.ruleType ≠ "") → RuleSet.ofBytes bytes = .ok set := by
    intro htypes
    rw [hread, RuleSet.toSet_ofSet hcacheable htypes]
    rfl
  have htypes : ∀ back, RuleSet.ofBytes bytes = .ok back →
      ∀ rule ∈ set.rules, rule.ruleType ≠ "" := by
    intro back hback
    by_contra hcon
    obtain ⟨front, rule, rest, hrules, hfront, hempty⟩ := RuleSet.exists_first_empty hcon
    rw [herror front rule rest hrules hfront hempty] at hback
    cases hback
  refine ⟨bytes, hwrite, ⟨htypes set, hok⟩, ⟨?_, fun h => ⟨set, hok h, hsame⟩⟩, herror⟩
  rintro ⟨back, hback, -⟩
  exact htypes back hback

theorem ofBytes_toBytes_iff_priceSettings :
    ∃ engine set bytes, build .standard = .ok engine ∧
      engine.loadSettings (Json.object priceSettings).render = .ok set ∧
      (∃ rule ∈ set.rules, (Json.object rule.extra).numbers ≠ []) ∧ set.NumbersReadBack ∧
      set.toBytes none = .ok bytes ∧ RuleSet.ofBytes bytes = .ok set := by
  have hstandard : (build .standard).toOption.any (fun engine =>
      let set := engine.normalizeSet (RuleSet.ofFields priceSettings)
      Decidable.decide ((Part.payload.write (Payload.ofSet set none)).length < Nat.pow 256 4) &&
        Decidable.decide set.NumbersReadBack && set.rules.all (·.ruleType != "") &&
        set.rules.any fun rule => (Json.object rule.extra).numbers != []) = true := by
    decide +kernel
  obtain ⟨engine, hengine, hchecked⟩ := exists_standard_of_any hstandard
  simp only [Bool.and_eq_true, decide_eq_true_eq, List.all_eq_true, List.any_eq_true,
    bne_iff_ne] at hchecked
  obtain ⟨⟨⟨hlength, hnumbers⟩, htypes⟩, hstored⟩ := hchecked
  have hload := loadSettings_priceSettings engine
  obtain ⟨bytes, hwrite, hread, -⟩ := ofBytes_toBytes_iff hengine hload none hlength hnumbers
  exact ⟨engine, _, bytes, hengine, hload, hstored, hnumbers, hwrite, hread.mpr htypes⟩

/-- Settings with one rule that is stored with an empty type. -/
def untypedRule : Fields Json :=
  .ofList [(RuleSet.rulesKey, .array [.object (.ofList [(Rule.typeKey, .text "")])])]

/-- Settings can be loaded with an empty rule type, and the set is then written but never read. -/
theorem ofBytes_toBytes_empty_type :
    ∃ engine set bytes, build .standard = .ok engine ∧
      engine.loadSettings "\x7b\"rules\":[\x7b\"type\":\"\"\x7d]\x7d" = .ok set ∧
      set.toBytes none = .ok bytes ∧
      RuleSet.ofBytes bytes = .error (.defective (.emptyRuleType 0)) := by
  have hstandard : (build .standard).toOption.any (fun engine =>
      let set := engine.normalizeSet (RuleSet.ofFields untypedRule)
      Decidable.decide ((Part.payload.write (Payload.ofSet set none)).length < Nat.pow 256 4) &&
        set.rules.map (·.ruleType) == [""]) = true := by
    decide +kernel
  obtain ⟨engine, hengine, hchecked⟩ := exists_standard_of_any hstandard
  simp only [Bool.and_eq_true, decide_eq_true_eq, beq_iff_eq] at hchecked
  obtain ⟨hlength, htypes⟩ := hchecked
  have htext : "\x7b\"rules\":[\x7b\"type\":\"\"\x7d]\x7d" = (Json.object untypedRule).render := by
    decide +kernel
  have hload : engine.loadSettings "\x7b\"rules\":[\x7b\"type\":\"\"\x7d]\x7d" =
      .ok (engine.normalizeSet (RuleSet.ofFields untypedRule)) :=
    loadSettings_eq_ok_iff.mpr
      ⟨_, htext ▸ Json.parse?_render (by decide +kernel) (by decide +kernel), rfl⟩
  obtain ⟨bytes, hwrite, hread⟩ := RuleSet.ofBytes_toBytes hlength
  obtain ⟨rule, hrules, hempty⟩ := List.map_eq_singleton_iff.mp htypes
  refine ⟨engine, _, bytes, hengine, hload, hwrite, ?_⟩
  rw [hread,
    RuleSet.toSet_ofSet_of_empty [] [] hrules (fun _ h => absurd h List.not_mem_nil) hempty]
  rfl

end Engine

end ShippingRules
