import ShippingRules.Proofs.Evaluation.Mistakes
import ShippingRules.Proofs.Evaluator.Membership

/-!
Instants that are taken for something else in rules on dates and on cities. A date rule that has an
instant for its operator loses the operator it has otherwise, an instant that its text does not
tell is another one or none, and the text of an instant is the name of a city. With the totals
these are all the places where an instant and its text differ.
-/
namespace ShippingRules

namespace Moment

theorem isBefore_self (m : Moment) : m.isBefore m = false := by
  simp only [isBefore, Moment.compare, Date.compare, ClockTime.compare,
    Std.ReflOrd.compare_self, Ordering.eq_then]
  rfl

/-- No moment of a day is before its midnight. -/
theorem isBefore_midnight (m : Moment) : m.isBefore ⟨m.date, .midnight⟩ = false := by
  have htime : m.time.compare .midnight ≠ .lt := by
    simp [ClockTime.compare, ClockTime.midnight, Ordering.then_eq_lt, Nat.compare_eq_lt]
  refine Bool.eq_false_iff.mpr fun hbefore => htime ?_
  have hlt := eq_of_beq hbefore
  simpa only [Moment.compare, Date.compare, Std.ReflOrd.compare_self, Ordering.eq_then] using hlt

end Moment

namespace Temporal

/-- Against the moment that it means, an instant means that moment. -/
theorem resolve_resolve (t : Temporal) (now : Moment) :
    t.resolve (t.resolve now) = t.resolve now := by
  cases t <;> rfl

/-- Where an instant is shown as another moment, it is to come at some time at which the other is
not, or the other way round. -/
theorem exists_isBefore_ne {t : Temporal} (hlegible : t.Legible) (hcut : ¬t.Plain) :
    ∃ now : Moment, now.isBefore (t.shown.resolve now) ≠ now.isBefore (t.resolve now) := by
  rcases isBefore_shown_or hlegible hcut with hearly | hlate
  · have hcome := hearly (t.shown.resolve default)
    rw [resolve_resolve] at hcome
    refine ⟨t.shown.resolve default, ?_⟩
    rw [resolve_resolve, Moment.isBefore_self, hcome]
    decide
  · have hcome := hlate (t.resolve default)
    rw [resolve_resolve] at hcome
    refine ⟨t.resolve default, ?_⟩
    rw [resolve_resolve, Moment.isBefore_self, hcome]
    decide

/-- It is over at some time at which the other is not, or the other way round. -/
theorem exists_isBefore_now_ne {t : Temporal} (hlegible : t.Legible) (hcut : ¬t.Plain) :
    ∃ now : Moment, (t.shown.resolve now).isBefore now ≠ (t.resolve now).isBefore now := by
  rcases isBefore_shown_or hlegible hcut with hearly | hlate
  · have hover := hearly (t.resolve default)
    rw [resolve_resolve] at hover
    refine ⟨t.resolve default, ?_⟩
    rw [resolve_resolve, Moment.isBefore_self, hover]
    decide
  · have hover := hlate (t.shown.resolve default)
    rw [resolve_resolve] at hover
    refine ⟨t.shown.resolve default, ?_⟩
    rw [resolve_resolve, Moment.isBefore_self, hover]
    decide

theorem parse?_midnight : parse? "00:00" = some (.timeOfDay .midnight) := by decide +kernel

end Temporal

namespace Evaluator

def InstantKind.typeId : InstantKind → String
  | time => "date:time"
  | date => "date:date"

def AddressKind.typeId : AddressKind → String
  | billing => "billing:city"
  | shipping => "shipping:city"

/-- A customer from this city. -/
def AddressKind.fact (kind : AddressKind) (city : String) : Snapshot.Fact :=
  match kind with
  | billing => .customer { Customer.guest with billing := ⟨city, ""⟩ }
  | shipping => .customer { Customer.guest with shipping := ⟨city, ""⟩ }

theorem momentOf?_of_get? {rule : Rule} {key : String} {value : Value}
    (h : rule.get? key = some value) (now : Moment) :
    momentOf? rule key now = value.asTemporal?.map (·.resolve now) := by
  simp only [momentOf?, h, Option.bind_eq_bind, Option.bind_some]
  cases value.asTemporal? <;> rfl

theorem InstantKind.exists_type (kind : InstantKind) :
    ∃ type ∈ Catalog.builtinTypes, type.id = kind.typeId ∧
      (∀ op ∈ Operator.temporal, type.accepts (some op) = true) ∧
        type.operatorField = "date_operator" := by
  cases kind <;> decide

theorem InstantKind.mem_builtinEntries (kind : InstantKind) :
    ⟨kind.typeId, instant kind⟩ ∈ EvaluatorTable.builtinEntries := by
  cases kind <;> simp [EvaluatorTable.builtinEntries, InstantKind.typeId]

theorem AddressKind.exists_type (kind : AddressKind) :
    ∃ type ∈ Catalog.builtinTypes, type.id = kind.typeId ∧
      type.accepts (some .anyInList) = true ∧ type.operatorField = RuleType.operatorKey := by
  cases kind <;> decide

theorem AddressKind.mem_builtinEntries (kind : AddressKind) :
    ⟨kind.typeId, city kind⟩ ∈ EvaluatorTable.builtinEntries := by
  cases kind <;> simp [EvaluatorTable.builtinEntries, AddressKind.typeId]

end Evaluator

namespace Engine

open Evaluator

variable {engine : Engine} {t : Temporal}

/-- A date rule has its operator from the parameter that is stored for it, if this has a text. -/
theorem operator_normalize_of_stored {rule : Rule} {type : RuleType} {value : Value}
    (hlookup : engine.catalog.lookup rule.ruleType = some type)
    (hfield : type.operatorField = "date_operator")
    (hstored : rule.get? "date_operator" = some value) :
    (engine.normalize rule).operator =
      if Text.trim (value.asText?.getD "") = "" then rule.operator
      else Text.trim (value.asText?.getD "") := by
  have hother : type.operatorField ≠ RuleType.operatorKey := hfield ▸ by decide
  have hfilled : (engine.template.fill rule).get? "date_operator" = some value := by
    have hparam : rule.params.get? "date_operator" = some value := hstored
    rw [Rule.get?, Template.get?_fill, hparam, Option.some_or]
  rw [operator_normalize_of_field hlookup hother, hfield, Rule.text, hfilled, Option.bind_some]

section Operator

theorem evaluateRule_eq_illegal_iff {rule : Rule} {type : RuleType} {evaluator : Evaluator}
    (hlookup : engine.catalog.lookup rule.ruleType = some type)
    (hget : engine.evaluators.get? type.id = some evaluator) (snapshot : Snapshot) :
    engine.evaluateRule snapshot rule = .illegalOperator ↔ type.accepts rule.operator? = false := by
  rw [evaluateRule_of_lookup hlookup hget]
  cases type.accepts rule.operator? with
  | true => cases evaluator rule snapshot <;> decide
  | false => exact iff_of_true rfl rfl

/-- Where the operator of a date rule should be, an instant is no text, and its text is no
operator. -/
theorem mistakes_of_operator (h : build .standard = .ok engine) {ruleType : String}
    (hdate : ruleType ∈ dateTypes) : engine.Mistakes ruleType "date_operator" t := by
  have htypes : ∀ id ∈ dateTypes,
      ∃ type ∈ Catalog.builtinTypes, type.id = id ∧ type.operatorField = "date_operator" ∧
        type.accepts none = false ∧ ∃ op ∈ Operator.all, type.accepts (some op) = true := by
    decide
  have hevaluators : ∀ id ∈ dateTypes,
      ∃ evaluator, ⟨id, evaluator⟩ ∈ EvaluatorTable.builtinEntries := by
    simp [dateTypes, EvaluatorTable.builtinEntries]
  obtain ⟨type, hbuiltin, rfl, hfield, hnone, op, -, hop⟩ := htypes ruleType hdate
  obtain ⟨evaluator, hentry⟩ := hevaluators _ hdate
  have hget := evaluator_of_builtin h hentry
  generalize hrule : Rule.withInstant type.id op.name "date_operator" t [] = rule
  have hsole : rule.Sole "date_operator" t := hrule ▸ Rule.sole_withInstant (by simp)
  have htype : rule.ruleType = type.id := hrule ▸ rfl
  have hoperator : rule.operator = op.name := hrule ▸ rfl
  have hlookup : engine.catalog.lookup rule.ruleType = some type :=
    htype ▸ lookup_of_builtin h hbuiltin
  have hstored : rule.textual.get? "date_operator" = some (.text t.text) :=
    Rule.get?_textual_of_some hsole.held
  have hlookupText : engine.catalog.lookup rule.textual.ruleType = some type := hlookup
  have htyped : (engine.normalize rule).operator? = some op := by
    have hblank : Text.trim ((Value.temporal t).asText?.getD "") = "" := by
      change Text.trim "" = ""
      decide
    rw [Rule.operator?, operator_normalize_of_stored hlookup hfield hsole.held, if_pos hblank,
      hoperator, Operator.ofName?_name]
  have htext : (engine.normalize rule.textual).operator? = none := by
    rw [Rule.operator?, operator_normalize_of_stored hlookupText hfield hstored, Value.asText?,
      Option.getD_some, Temporal.trim_text, if_neg t.text_ne_empty, Temporal.ofName?_text]
  refine ⟨rule, default, [], htype, hsole, fun hsame => ?_⟩
  rw [(evaluateRule_eq_illegal_iff (lookup_normalize hlookupText) hget _).mpr (htext ▸ hnone)]
    at hsame
  have hillegal := (evaluateRule_eq_illegal_iff (lookup_normalize hlookup) hget _).mp hsame.symm
  rw [htyped, hop] at hillegal
  cases hillegal

end Operator

section Instants

/-- A date rule has the operator whose name is stored for it. -/
theorem operator?_normalize_of_stored {rule : Rule} {type : RuleType} {op : Operator}
    (hlookup : engine.catalog.lookup rule.ruleType = some type)
    (hfield : type.operatorField = "date_operator")
    (hstored : rule.get? "date_operator" = some (.text op.name)) :
    (engine.normalize rule).operator? = some op := by
  have hname : Text.trim op.name = op.name ∧ op.name ≠ "" := by cases op <;> decide +kernel
  rw [Rule.operator?, operator_normalize_of_stored hlookup hfield hstored, Value.asText?,
    Option.getD_some, hname.1, if_neg hname.2, Operator.ofName?_name]

/-- It is enough that the evaluator tells the forms apart beside a bound at midnight. -/
theorem mistakes_of_instant (h : build .standard = .ok engine) (kind : InstantKind)
    {key other : String} {op : Operator} (htemporal : op ∈ Operator.temporal)
    (hkeys : (key, other) ∈ [(kind.firstKey, kind.secondKey), (kind.secondKey, kind.firstKey)])
    (now : Moment)
    (hdiffer : ∀ rule : Rule, rule.operator? = some op → rule.get? key = some (.temporal t) →
      rule.get? other = some (.text "00:00") →
        instant kind rule.textual (.ofFacts now []) ≠ instant kind rule (.ofFacts now [])) :
    engine.Mistakes kind.typeId key t := by
  obtain ⟨type, hbuiltin, hid, hlegal, hfield⟩ := kind.exists_type
  obtain ⟨hkey, hbound, hdistinct⟩ :
      "date_operator" ≠ key ∧ other ≠ "date_operator" ∧ other ≠ key := by
    simp only [List.mem_cons, Prod.mk.injEq, List.not_mem_nil, or_false] at hkeys
    obtain ⟨rfl, rfl⟩ | ⟨rfl, rfl⟩ := hkeys <;> cases kind <;> decide
  generalize hrule : Rule.withInstant kind.typeId "" key t
    [("date_operator", .text op.name), (other, .text "00:00")] = rule
  have hsole : rule.Sole key t := hrule ▸ Rule.sole_withInstant (by simp)
  have htype : rule.ruleType = kind.typeId := hrule ▸ rfl
  have hoperator : rule.get? "date_operator" = some (.text op.name) := by
    rw [← hrule, Rule.get?_withInstant, if_neg hkey, Fields.get?_ofList]
    simp [Fields.lastWith, hbound]
  have hmidnight : rule.get? other = some (.text "00:00") := by
    rw [← hrule, Rule.get?_withInstant, if_neg hdistinct, Fields.get?_ofList]
    simp [Fields.lastWith]
  have hentry := kind.mem_builtinEntries
  rw [← hid] at hentry htype ⊢
  exact mistakes_of_builtin h hbuiltin hentry (hlegal op htemporal) htype
    (fun hlookup => operator?_normalize_of_stored hlookup hfield hoperator) hsole hkey now []
    fun normal hop hkept => hdiffer normal hop (hkept _ _ hsole.held) (hkept _ _ hmidnight)

/-- The range that starts at midnight is left when its end is over. -/
theorem instant_until {kind : InstantKind} {rule : Rule} {now stop : Moment}
    (hop : rule.operator? = some .between) (hstart : rule.get? kind.firstKey = some (.text "00:00"))
    (hstop : momentOf? rule kind.secondKey now = some stop) :
    instant kind rule (.ofFacts now []) = !stop.isBefore now := by
  have hmidnight : momentOf? rule kind.firstKey now = some ⟨now.date, .midnight⟩ := by
    rw [momentOf?_of_get? hstart, Value.asTemporal?, Temporal.parse?_midnight]
    rfl
  have hnow : (Snapshot.ofFacts now []).now = now := rfl
  simp only [instant, hnow, hmidnight, hop, hstop, Moment.isBefore_midnight, Bool.not_false,
    Bool.true_and]

/-- An instant that its text does not tell, as the start of a range or as the only one. -/
theorem mistakes_of_first (h : build .standard = .ok engine) (kind : InstantKind)
    (hcut : ¬t.Plain) : engine.Mistakes kind.typeId kind.firstKey t := by
  by_cases hlegible : t.Legible
  · -- The text is read as another moment, and at some time only one of them is to come.
    have hbefore : Operator.before ∈ Operator.temporal := by decide
    obtain ⟨now, hdiffer⟩ := Temporal.exists_isBefore_ne hlegible hcut
    refine mistakes_of_instant h kind hbefore List.mem_cons_self now fun rule hop hheld _ => ?_
    have hopText : rule.textual.operator? = some .before := hop
    simp only [instant, hop, hopText, momentOf?_of_get? hheld,
      momentOf?_of_get? (Rule.get?_textual_of_some hheld), Value.textual, Value.asTemporal?,
      Temporal.parse?_text_of_legible hlegible, Option.map_some]
    exact hdiffer
  · -- Past the end of the range the rule matches, unless its start cannot be read.
    have hrange : Operator.notBetween ∈ Operator.temporal := by decide
    let now : Moment := ⟨default, ⟨12, 0, 0, 0, by decide⟩⟩
    refine mistakes_of_instant h kind hrange List.mem_cons_self now fun rule hop hheld hend => ?_
    have htyped : instant kind rule (.ofFacts now []) = true := by
      simp only [instant, hop, momentOf?_of_get? hheld, momentOf?_of_get? hend, Value.asTemporal?,
        Temporal.parse?_midnight, Option.map_some]
      exact Bool.or_eq_true_iff.mpr (.inr (by decide))
    have htext : instant kind rule.textual (.ofFacts now []) = false := by
      simp only [instant, momentOf?_of_get? (Rule.get?_textual_of_some hheld), Value.textual,
        Value.asTemporal?, Temporal.parse?_text_eq_none hlegible, Option.map_none]
    rw [htyped, htext]
    decide

/-- An instant that its text does not tell, as the end of a range. -/
theorem mistakes_of_second (h : build .standard = .ok engine) (kind : InstantKind)
    (hcut : ¬t.Plain) : engine.Mistakes kind.typeId kind.secondKey t := by
  have hrange : Operator.between ∈ Operator.temporal := by decide
  have hkeys : (kind.secondKey, kind.firstKey) ∈
      [(kind.firstKey, kind.secondKey), (kind.secondKey, kind.firstKey)] :=
    List.mem_cons_of_mem _ List.mem_cons_self
  by_cases hlegible : t.Legible
  · -- The text is read as another moment, and at some time only one of them is over.
    obtain ⟨now, hdiffer⟩ := Temporal.exists_isBefore_now_ne hlegible hcut
    refine mistakes_of_instant h kind hrange hkeys now fun rule hop hheld hstart => ?_
    have hopText : rule.textual.operator? = some .between := hop
    have hshown : momentOf? rule.textual kind.secondKey now = some (t.shown.resolve now) := by
      rw [momentOf?_of_get? (Rule.get?_textual_of_some hheld), Value.textual, Value.asTemporal?,
        Temporal.parse?_text_of_legible hlegible, Option.map_some]
    rw [instant_until hopText (Rule.get?_textual_of_some hstart) hshown,
      instant_until hop hstart (momentOf?_of_get? hheld now)]
    exact fun hsame => hdiffer (Bool.not_inj hsame)
  · -- The rule matches at its end, unless this cannot be read.
    generalize hnow : t.resolve default = now
    have hmeant : t.resolve now = now := hnow ▸ t.resolve_resolve default
    refine mistakes_of_instant h kind hrange hkeys now fun rule hop hheld hstart => ?_
    have hopText : rule.textual.operator? = some .between := hop
    have htext : instant kind rule.textual (.ofFacts now []) = false := by
      simp only [instant, hopText, momentOf?_of_get? (Rule.get?_textual_of_some hheld),
        momentOf?_of_get? (Rule.get?_textual_of_some hstart), Value.textual, Value.asTemporal?,
        Temporal.parse?_midnight, Option.map_some, Temporal.parse?_text_eq_none hlegible,
        Option.map_none]
    have hend : momentOf? rule kind.secondKey now = some now := by
      rw [momentOf?_of_get? hheld, Value.asTemporal?, Option.map_some, hmeant]
    rw [htext, instant_until hop hstart hend, Moment.isBefore_self]
    decide

end Instants

section Cities

/-- The text of an instant is the name of a city, and an instant is no text. -/
theorem mistakes_of_cities (h : build .standard = .ok engine) (kind : AddressKind) :
    engine.Mistakes kind.typeId kind.citiesKey t := by
  obtain ⟨type, hbuiltin, hid, hlegal, hfield⟩ := kind.exists_type
  have hkey : "date_operator" ≠ kind.citiesKey := by cases kind <;> decide
  generalize hrule : Rule.withInstant kind.typeId Operator.anyInList.name kind.citiesKey t [] = rule
  have hsole : rule.Sole kind.citiesKey t := hrule ▸ Rule.sole_withInstant (by simp)
  have htype : rule.ruleType = kind.typeId := hrule ▸ rfl
  have hoperator : rule.operator = Operator.anyInList.name := hrule ▸ rfl
  have hentry := kind.mem_builtinEntries
  rw [← hid] at hentry htype ⊢
  refine mistakes_of_builtin h hbuiltin hentry hlegal htype
    (operator?_normalize_of_named hfield hoperator) hsole hkey default [kind.fact t.text]
    fun normal hop hkept => ?_
  have hheld := hkept _ _ hsole.held
  have hopText : normal.textual.operator? = some .anyInList := hop
  have hown : (kind.address (.ofFacts default [kind.fact t.text])).city = t.text := by
    cases kind <;> rfl
  have htyped : city kind normal (.ofFacts default [kind.fact t.text]) = false := by
    have hcities : configuredCities (normal.text kind.citiesKey) = [] := by
      rw [Rule.text, hheld]
      change configuredCities "" = []
      decide
    refine Bool.eq_false_iff.mpr fun hmatched => ?_
    rw [city, hop, hcities, membership_anyInList_iff] at hmatched
    obtain ⟨_, hnone, -⟩ := hmatched
    cases hnone
  have htext : city kind normal.textual (.ofFacts default [kind.fact t.text]) = true := by
    have hcities : configuredCities (normal.textual.text kind.citiesKey) = [Text.lower t.text] := by
      rw [Rule.text, Rule.get?_textual_of_some hheld]
      exact t.configuredCities_text
    rw [city, hopText, hcities, membership_anyInList_iff, hown, Temporal.trim_text]
    exact ⟨_, List.mem_cons_self, beq_self_eq_true _⟩
  rw [htyped, htext]
  decide

end Cities

theorem mistakes_of_blurs (h : build .standard = .ok engine) {ruleType key : String}
    (hblurs : t.Blurs ruleType key) : engine.Mistakes ruleType key t := by
  cases hblurs with
  | total hleading htype hparam =>
    obtain ⟨metric, rfl⟩ := CartMetric.exists_typeId htype
    simp only [List.mem_cons, List.not_mem_nil, or_false] at hparam
    obtain rfl | rfl := hparam
    · exact mistakes_of_value h metric hleading
    · exact mistakes_of_valueTwo h metric hleading
  | operator htype => exact mistakes_of_operator h htype
  | time hcut hparam =>
    simp only [List.mem_cons, List.not_mem_nil, or_false] at hparam
    obtain rfl | rfl := hparam
    · exact mistakes_of_first h .time hcut
    · exact mistakes_of_second h .time hcut
  | date hcut hparam =>
    simp only [List.mem_cons, List.not_mem_nil, or_false] at hparam
    obtain rfl | rfl := hparam
    · exact mistakes_of_first h .date hcut
    · exact mistakes_of_second h .date hcut
  | billingCities => exact mistakes_of_cities h .billing
  | shippingCities => exact mistakes_of_cities h .shipping

/-- Read back, a rule fares as before wherever no instant of it is taken for something else, and
each instant that is taken for something else has a rule that does not. -/
theorem evaluateRule_normalize_textual (h : build .standard = .ok engine) :
    (∀ rule : Rule, (∀ key t, rule.get? key = some (.temporal t) → ¬t.Blurs rule.ruleType key) →
      ∀ snapshot, engine.evaluateRule snapshot (engine.normalize rule.textual) =
        engine.evaluateRule snapshot (engine.normalize rule)) ∧
      ∀ (t : Temporal) (ruleType key : String),
        t.Blurs ruleType key → engine.Mistakes ruleType key t :=
  ⟨fun _ hclear => evaluateRule_normalize_of_clear h hclear, fun _ _ _ => mistakes_of_blurs h⟩

/-- The rule that it is earlier than a time of day. -/
def beforeTime (t : ClockTime) : Rule :=
  Rule.withInstant "date:time" "" "time_one" (.timeOfDay t) [("date_operator", .text "before")]

theorem restorable_textual_beforeTime (t : ClockTime) : (beforeTime t).textual.Restorable := by
  have hparams : ∀ key value, (beforeTime t).textual.get? key = some value →
      key ∈ ["time_one", "date_operator"] ∧ value.Storable := by
    intro key value hget
    rw [Rule.get?_textual, beforeTime, Rule.get?_withInstant] at hget
    split at hget
    · rename_i hkey
      cases hget
      exact ⟨hkey ▸ List.mem_cons_self, trivial⟩
    · obtain ⟨stored, hstored, rfl⟩ := Option.map_eq_some_iff.mp hget
      cases List.mem_singleton.mp (Fields.mem_of_get?_ofList hstored)
      exact ⟨by decide, trivial⟩
  have hcurrent : ∀ entry ∈ Rule.formerTypes, "date:time" ≠ entry.former := by decide
  have hheaders : ∀ key ∈ ["time_one", "date_operator"], Rule.isHeader key = false := by decide
  refine ⟨hcurrent, fun key hheader => ?_, fun key value hget => (hparams key value hget).2,
    fun _ => .inr rfl, nofun, nofun, nofun⟩
  refine Option.eq_none_iff_forall_ne_some.mpr fun value hget => ?_
  rw [hheaders key (hparams key value hget).1] at hheader
  cases hheader

def sixPm : ClockTime := ⟨18, 0, 0, 0, by decide⟩

/-- Half a second past six. -/
def pastSixPm : ClockTime := ⟨18, 0, 0, 500000000, by decide⟩

theorem evaluateRule_normalize_textual_sixPm :
    ∃ engine, build .standard = .ok engine ∧ ∀ snapshot,
      engine.evaluateRule snapshot (engine.normalize (beforeTime sixPm).textual) =
        engine.evaluateRule snapshot (engine.normalize (beforeTime sixPm)) := by
  obtain ⟨engine, hengine⟩ := exists_standard
  refine ⟨engine, hengine, (evaluateRule_normalize_textual hengine).1 _ fun key t ht hblurs => ?_⟩
  have hsole : (beforeTime sixPm).Sole "time_one" (.timeOfDay sixPm) :=
    Rule.sole_withInstant (by simp)
  have hkey := hsole.only _ _ ht
  rw [hkey] at ht
  cases hsole.held.symm.trans ht
  generalize htype : (beforeTime sixPm).ruleType = ruleType at hblurs
  cases hblurs with
  | total _ htotal => exact absurd (htype ▸ htotal) (by decide)
  | operator => exact absurd hkey (by decide)
  | time hcut => exact hcut rfl
  | date => exact absurd htype (by decide)
  | billingCities => exact absurd htype (by decide)
  | shippingCities => exact absurd htype (by decide)

/-- An empty cart at six. -/
def atSixPm : Snapshot := .ofFacts ⟨default, sixPm⟩ []

/-- At six the rule that it is earlier than half a second past six matches, and it does not once it
is read back. -/
theorem evaluateRule_pastSixPm :
    ∃ engine, build .standard = .ok engine ∧
      Rule.ofJson? (beforeTime pastSixPm).toJson = some (beforeTime pastSixPm).textual ∧
      engine.evaluateRule atSixPm (engine.normalize (beforeTime pastSixPm)) = .matched ∧
      engine.evaluateRule atSixPm (engine.normalize (beforeTime pastSixPm).textual) =
        .notMatched := by
  obtain ⟨engine, hengine⟩ := exists_standard
  have hread := Rule.ofJson?_toJson_textual (restorable_textual_beforeTime pastSixPm)
  have hevaluated : (build .standard).toOption.all (fun engine =>
      engine.evaluateRule atSixPm (engine.normalize (beforeTime pastSixPm)) == .matched &&
        engine.evaluateRule atSixPm (engine.normalize (beforeTime pastSixPm).textual) ==
          .notMatched) = true := by
    decide +kernel
  rw [hengine] at hevaluated
  simp only [Except.toOption, Option.all_some, Bool.and_eq_true, beq_iff_eq] at hevaluated
  obtain ⟨htyped, htext⟩ := hevaluated
  exact ⟨engine, hengine, hread, htyped, htext⟩

end Engine

end ShippingRules
