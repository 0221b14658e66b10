import ShippingRules.Proofs.Catalog
import ShippingRules.Proofs.Normalization
import ShippingRules.Proofs.Number.Order
import ShippingRules.Proofs.Settings.Record
import ShippingRules.Proofs.Temporal.Text

/-!
Rules whose instants are texts. Instants are stored as texts, so a rule that is written and read
back has texts in their place. Most readings make no difference between an instant and its text;
the parameters under which some evaluator, or the operator of the rule, does are told here, and a
rule without an instant under them has the same outcomes as its stored form.
-/
namespace ShippingRules

/-- The value as it is read back: an instant becomes its text. -/
def Value.textual : Value → Value
  | .temporal t => .text t.text
  | value => value

/-- The rule with a text for every instant. -/
def Rule.textual (rule : Rule) : Rule := { rule with params := rule.params.map Value.textual }

/-- The rule types that compare a total of the cart. -/
def totalTypes : List String := ["cart:subtotal", "cart:total_quantity", "cart:total_weight"]

/-- The rule types that keep their operator under `date_operator`. -/
def dateTypes : List String := ["date:time", "date:date", "date:weekly_days"]

/-- The parameters under which rules of a type take an instant for something else than its text:
the bounds of a total, the operator of a date rule, the instants it names if the text does not tell
all of them, and the cities of an address. -/
inductive Temporal.Blurs (t : Temporal) : String → String → Prop
  | total {ruleType key : String} (leading : t.leadingPart ≠ 0)
      (type : ruleType ∈ totalTypes) (param : key ∈ ["value", "value_two"]) :
      Blurs t ruleType key
  | operator {ruleType : String} (type : ruleType ∈ dateTypes) : Blurs t ruleType "date_operator"
  | time {key : String} (cut : ¬t.Plain) (param : key ∈ ["time_one", "time_two"]) :
      Blurs t "date:time" key
  | date {key : String} (cut : ¬t.Plain) (param : key ∈ ["date_one", "date_two"]) :
      Blurs t "date:date" key
  | billingCities : Blurs t "billing:city" "billing_cities"
  | shippingCities : Blurs t "shipping:city" "shipping_cities"

namespace Value

variable {value : Value}

theorem toJson_textual : value.textual.toJson = value.toJson := by cases value <;> rfl

theorem asList_textual : value.textual.asList = value.asList := by cases value <;> rfl

theorem textual_of_storable (h : value.Storable) : value.textual = value := by
  cases value with
  | temporal t => exact h.elim
  | _ => rfl

theorem asText?_textual (h : ∀ t, value ≠ .temporal t) : value.textual.asText? = value.asText? := by
  cases value with
  | temporal t => exact absurd rfl (h t)
  | _ => rfl

theorem asNumber_textual (h : ∀ t, value = .temporal t → t.leadingPart = 0) :
    value.textual.asNumber = value.asNumber := by
  cases value with
  | temporal t =>
    rw [textual, asNumber, Temporal.leading?_text, h t rfl, Double.ofInt_zero]
    rfl
  | _ => rfl

theorem asTemporal?_textual (h : ∀ t, value = .temporal t → t.Plain) :
    value.textual.asTemporal? = value.asTemporal? := by
  cases value with
  | temporal t => exact Temporal.parse?_text (h t rfl)
  | _ => rfl

end Value

namespace Rule

variable {rule : Rule} {key : String}

theorem get?_textual : rule.textual.get? key = (rule.get? key).map Value.textual :=
  Fields.get?_map Value.textual rule.params key

theorem get?_textual_of_some {value : Value} (h : rule.get? key = some value) :
    rule.textual.get? key = some value.textual := by
  rw [get?_textual, h, Option.map_some]

/-- Writing a rule writes its instants as texts, and reading it back leaves them so. -/
theorem ofJson?_toJson_textual (h : rule.textual.Restorable) :
    ofJson? rule.toJson = some rule.textual := by
  have hparams : rule.textual.params.map Value.toJson = rule.params.map Value.toJson := by
    apply Fields.ext_get?
    intro key
    rw [textual, Fields.get?_map, Fields.get?_map, Fields.get?_map, Option.map_map]
    exact congrArg (Option.map · _) (funext fun value => Value.toJson_textual)
  have hjson : rule.textual.toJson = rule.toJson := by
    rw [toJson, toJson, toFields, toFields, hparams]
    rfl
  rw [← hjson, h.settled.filed.ofJson?_toJson, h.reread_eq]

theorem list_textual : rule.textual.list key = rule.list key := by
  rw [list, list, get?_textual]
  cases rule.get? key with
  | none => rfl
  | some value => exact Value.asList_textual

theorem text_textual (h : ∀ t, rule.get? key ≠ some (.temporal t)) :
    rule.textual.text key = rule.text key := by
  rw [text, text, get?_textual]
  cases hvalue : rule.get? key with
  | none => rfl
  | some value =>
    have hreading := Value.asText?_textual fun t ht => h t (ht ▸ hvalue)
    rw [Option.map_some, Option.bind_some, Option.bind_some, hreading]

theorem number_textual (h : ∀ t, rule.get? key = some (.temporal t) → t.leadingPart = 0) :
    rule.textual.number key = rule.number key := by
  rw [number, number, get?_textual]
  cases hvalue : rule.get? key with
  | none => rfl
  | some value => exact Value.asNumber_textual fun t ht => h t (ht ▸ hvalue)

end Rule

namespace Evaluator

variable {rule : Rule} {key : String}

theorem momentOf?_textual (h : ∀ t, rule.get? key = some (.temporal t) → t.Plain) (now : Moment) :
    momentOf? rule.textual key now = momentOf? rule key now := by
  rw [momentOf?, momentOf?, Rule.get?_textual]
  cases hvalue : rule.get? key with
  | none => rfl
  | some value =>
    have hreading := Value.asTemporal?_textual fun t ht => h t (ht ▸ hvalue)
    simp only [Option.map_some, Option.bind_eq_bind, Option.bind_some, hreading]

/-- An instant asks for no login state, and neither does its text. -/
theorem wantedLogin?_textual : wantedLogin? rule.textual = wantedLogin? rule := by
  rw [wantedLogin?, wantedLogin?, Rule.get?_textual]
  cases rule.get? "logged_in" with
  | none => rfl
  | some value =>
    cases value with
    | temporal t =>
      have hyes := Temporal.sameAscii_toChars t (show "yes".toList.length < 8 by decide)
      have hno := Temporal.sameAscii_toChars t (show "no".toList.length < 8 by decide)
      simp only [Option.map_some, Value.textual, Temporal.toList_text, Temporal.trimChars_toChars,
        hyes, hno]
      rfl
    | _ => rfl

variable {snapshot : Snapshot}

theorem cartTotal_textual (metric : CartMetric)
    (h : ∀ key ∈ ["value", "value_two"], ∀ t, rule.get? key = some (.temporal t) →
      t.leadingPart = 0) :
    cartTotal metric rule.textual snapshot = cartTotal metric rule snapshot := by
  have hlow := Rule.number_textual (h "value" (by decide))
  have hhigh := Rule.number_textual (h "value_two" (by decide))
  simp only [cartTotal, hlow, hhigh]
  rfl

theorem instant_textual (kind : InstantKind)
    (h : ∀ key ∈ [kind.firstKey, kind.secondKey], ∀ t, rule.get? key = some (.temporal t) →
      t.Plain) :
    instant kind rule.textual snapshot = instant kind rule snapshot := by
  have hstart := momentOf?_textual (h kind.firstKey (by simp)) snapshot.now
  have hstop := momentOf?_textual (h kind.secondKey (by simp)) snapshot.now
  simp only [instant, hstart, hstop]
  rfl

theorem city_textual (kind : AddressKind)
    (h : ∀ t, rule.get? kind.citiesKey ≠ some (.temporal t)) :
    city kind rule.textual snapshot = city kind rule snapshot := by
  simp only [city, Rule.text_textual h]
  rfl

end Evaluator

section Evaluators

variable {rule : Rule} {snapshot : Snapshot}

theorem textual_of_builtinEntries {entry : Evaluator.Entry}
    (hentry : entry ∈ EvaluatorTable.builtinEntries)
    (h : ∀ key t, rule.get? key = some (.temporal t) → ¬t.Blurs entry.id key) :
    entry.evaluator rule.textual snapshot = entry.evaluator rule snapshot := by
  have htotal : entry.id ∈ totalTypes → ∀ key ∈ ["value", "value_two"], ∀ t,
      rule.get? key = some (.temporal t) → t.leadingPart = 0 := by
    intro htype key hkey t ht
    by_contra hleading
    exact h key t ht (.total hleading htype hkey)
  simp only [EvaluatorTable.builtinEntries, List.mem_cons, List.not_mem_nil, or_false] at hentry
  obtain rfl | rfl | rfl | rfl | rfl | rfl | rfl | rfl | rfl | rfl | rfl | rfl | rfl := hentry
  · exact Evaluator.cartTotal_textual _ (htotal (by decide))
  · exact Evaluator.cartTotal_textual _ (htotal (by decide))
  · exact Evaluator.cartTotal_textual _ (htotal (by decide))
  · simp only [Evaluator.coupons, Rule.list_textual]
    rfl
  · refine Evaluator.instant_textual .time fun key hkey t ht => ?_
    by_contra hcut
    exact h key t ht (.time hcut hkey)
  · refine Evaluator.instant_textual .date fun key hkey t ht => ?_
    by_contra hcut
    exact h key t ht (.date hcut hkey)
  · simp only [Evaluator.weeklyDays, Rule.list_textual]
    rfl
  · simp only [Evaluator.users, Rule.list_textual]
    rfl
  · simp only [Evaluator.loggedIn, Evaluator.wantedLogin?_textual]
  · exact Evaluator.city_textual .billing fun t ht => h _ t ht .billingCities
  · exact Evaluator.city_textual .shipping fun t ht => h _ t ht .shippingCities
  · simp only [Evaluator.country, Rule.list_textual]
    rfl
  · simp only [Evaluator.country, Rule.list_textual]
    rfl

end Evaluators

namespace Template

variable {template : Template} {rule : Rule}

/-- No default is an instant. -/
theorem fill_textual (h : template.Storable) :
    template.fill rule.textual = (template.fill rule).textual := by
  rw [fill_eq, fill_eq template rule]
  refine Rule.eq_of_fields rfl rfl ?_ rfl
  apply Fields.ext_get?
  intro key
  have hfilled : (template.fill rule).textual.params.get? key =
      ((template.fill rule).params.get? key).map Value.textual := Fields.get?_map _ _ _
  have hstored : rule.textual.params.get? key = (rule.params.get? key).map Value.textual :=
    Fields.get?_map _ _ _
  refine (get?_fill template rule.textual key).trans (Eq.trans ?_ hfilled.symm)
  rw [get?_fill, hstored]
  cases rule.params.get? key with
  | some value => rfl
  | none =>
    change (if rule.extra.contains key then none else template.get? key) =
      (if rule.extra.contains key then none else template.get? key).map Value.textual
    split
    · rfl
    · cases hdefault : template.get? key with
      | none => rfl
      | some value =>
        rw [Option.map_some, Value.textual_of_storable (h key value hdefault).2]

theorem liftedOperator?_textual {type : Option RuleType}
    (h : ∀ known, type = some known → known.operatorField ≠ RuleType.operatorKey →
      ∀ t, rule.get? known.operatorField ≠ some (.temporal t)) :
    liftedOperator? rule.textual type = liftedOperator? rule type := by
  cases type with
  | none => simp only [liftedOperator?, Option.bind_eq_bind, Option.bind_none]
  | some known =>
    by_cases hfield : known.operatorField = RuleType.operatorKey
    · simp only [liftedOperator?, Option.bind_eq_bind, Option.bind_some, if_pos hfield]
    · have htext := Rule.text_textual (h known rfl hfield)
      simp only [liftedOperator?, Option.bind_eq_bind, Option.bind_some, htext]

theorem normalize_textual (h : template.Storable) {type : Option RuleType}
    (hoperator : ∀ known, type = some known → known.operatorField ≠ RuleType.operatorKey →
      ∀ t, rule.get? known.operatorField ≠ some (.temporal t)) :
    template.normalize rule.textual type = (template.normalize rule type).textual := by
  have hlifted : liftedOperator? (template.fill rule).textual type =
      liftedOperator? (template.fill rule) type := by
    refine liftedOperator?_textual fun known hknown hfield t ht => ?_
    rw [Rule.get?, get?_fill] at ht
    obtain hstored | ⟨-, hdefault⟩ := Option.or_eq_some_iff.mp ht
    · exact hoperator known hknown hfield t hstored
    · split at hdefault
      · cases hdefault
      · exact (h _ _ hdefault).2
  rw [normalize, normalize, fill_textual h, hlifted]
  generalize template.fill rule = filled
  rfl

end Template

namespace Engine

variable {engine : Engine} {rule : Rule}

/-- Only the types on dates keep their operator under a field of their own. -/
theorem dateType_of_lookup (h : build .standard = .ok engine) {id : String} {type : RuleType}
    (hlookup : engine.catalog.lookup id = some type)
    (hfield : type.operatorField ≠ RuleType.operatorKey) :
    id ∈ dateTypes ∧ type.operatorField = "date_operator" := by
  obtain ⟨htype, rfl⟩ := Catalog.lookup_eq_some_iff.mp hlookup
  have hbuiltin : ∀ type ∈ Catalog.builtinTypes, type.operatorField ≠ RuleType.operatorKey →
      type.id ∈ dateTypes ∧ type.operatorField = "date_operator" := by
    decide
  rw [types_of_build h, List.append_assoc, List.mem_append, List.mem_append] at htype
  obtain hstandard | htaxonomy | hconfigured := htype
  · exact hbuiltin type hstandard hfield
  · obtain ⟨_, _, -, rfl⟩ := Catalog.mem_taxonomyTypes_iff.mp htaxonomy
    exact absurd rfl hfield
  · cases hconfigured

theorem evaluateRule_textual (h : build .standard = .ok engine)
    (hclear : ∀ key t, rule.get? key = some (.temporal t) → ¬t.Blurs rule.ruleType key)
    (snapshot : Snapshot) :
    engine.evaluateRule snapshot rule.textual = engine.evaluateRule snapshot rule := by
  have htype : rule.textual.ruleType = rule.ruleType := rfl
  refine evaluateRule_congr htype fun type evaluator hlookup hget => ⟨rfl, ?_⟩
  obtain ⟨-, hid⟩ := Catalog.lookup_eq_some_iff.mp hlookup
  obtain hbuiltin | ⟨-, -, -, dimension, -, rfl⟩ := evaluator_cases h rfl hget
  · refine textual_of_builtinEntries hbuiltin fun key t ht => ?_
    rw [hid]
    exact hclear key t ht
  · simp only [Evaluator.cartItems, Rule.list_textual]
    rfl

theorem normalize_textual (h : build .standard = .ok engine)
    (hoperator : rule.ruleType ∈ dateTypes → ∀ t, rule.get? "date_operator" ≠ some (.temporal t)) :
    engine.normalize rule.textual = (engine.normalize rule).textual := by
  have hdefaults := storable_template_of_standard h
  refine Template.normalize_textual hdefaults fun type htype hfield t ht => ?_
  obtain ⟨hdate, hkey⟩ := dateType_of_lookup h htype hfield
  exact hoperator hdate t (hkey ▸ ht)

/-- Normalizing adds no instant. -/
theorem get?_of_normalize (h : build .standard = .ok engine) {key : String} {t : Temporal}
    (hget : (engine.normalize rule).get? key = some (.temporal t)) :
    rule.get? key = some (.temporal t) := by
  rw [Rule.get?, get?_params_normalize] at hget
  obtain hstored | ⟨-, hdefault⟩ := Option.or_eq_some_iff.mp hget
  · exact hstored
  · split at hdefault
    · cases hdefault
    · exact (storable_template_of_standard h _ _ hdefault).2.elim

/-- Without an instant that is taken for something else, a rule fares as it does read back. -/
theorem evaluateRule_normalize_of_clear (h : build .standard = .ok engine)
    (hclear : ∀ key t, rule.get? key = some (.temporal t) → ¬t.Blurs rule.ruleType key)
    (snapshot : Snapshot) :
    engine.evaluateRule snapshot (engine.normalize rule.textual) =
      engine.evaluateRule snapshot (engine.normalize rule) := by
  rw [normalize_textual h fun hdate t ht => hclear _ t ht (.operator hdate)]
  refine evaluateRule_textual h (fun key t ht => ?_) snapshot
  rw [ruleType_normalize]
  exact hclear key t (get?_of_normalize h ht)

end Engine

end ShippingRules
