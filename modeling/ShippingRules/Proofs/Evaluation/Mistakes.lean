import ShippingRules.Proofs.Evaluation.Textual

/-!
Rules that fare otherwise once they are written and read back. Wherever an instant is taken for
something else than its text, a rule with no other instant shows it: on some cart and at some time
the rule has one outcome with the instant and another with its text.
-/
namespace ShippingRules

/-- A rule with an instant under one key and other parameters beside it. -/
def Rule.withInstant (ruleType operator key : String) (t : Temporal)
    (others : List (String × Value)) : Rule :=
  { Rule.new ruleType operator with params := (Fields.ofList others).insert key (.temporal t) }

namespace Evaluator

def CartMetric.typeId : CartMetric → String
  | subtotal => "cart:subtotal"
  | itemCount => "cart:total_quantity"
  | totalWeight => "cart:total_weight"

/-- A whole number as the total of a cart. -/
def CartMetric.fact (metric : CartMetric) (n : Nat) : Snapshot.Fact :=
  match metric with
  | subtotal => .subtotal (Double.ofNat n).toFloat
  | itemCount => .itemCount n
  | totalWeight => .totalWeight (Double.ofNat n).toFloat

end Evaluator

/-- The rule has this instant under the key, and no other instant. -/
structure Rule.Sole (rule : Rule) (key : String) (t : Temporal) : Prop where
  held : rule.get? key = some (.temporal t)
  only : ∀ other s, rule.get? other = some (.temporal s) → other = key

namespace Rule

variable {ruleType operator key : String} {t : Temporal} {others : List (String × Value)}

theorem get?_withInstant (other : String) :
    (withInstant ruleType operator key t others).get? other =
      if other = key then some (.temporal t) else (Fields.ofList others).get? other :=
  Fields.get?_insert _ _ _ _

theorem sole_withInstant (hothers : ∀ entry ∈ others, ∀ s, entry.2 ≠ .temporal s) :
    (withInstant ruleType operator key t others).Sole key t := by
  refine ⟨(get?_withInstant key).trans (if_pos rfl), fun other s h => ?_⟩
  rw [get?_withInstant] at h
  split at h
  · assumption
  · exact absurd rfl (hothers _ (Fields.mem_of_get?_ofList h) s)

end Rule

namespace Engine

variable {engine : Engine} {rule : Rule} {key : String} {t : Temporal}

/-- Some rule of the type whose only instant is this one fares otherwise as it is read back. -/
def Mistakes (engine : Engine) (ruleType key : String) (t : Temporal) : Prop :=
  ∃ rule now facts, rule.ruleType = ruleType ∧ rule.Sole key t ∧
    engine.evaluateRule (.ofFacts now facts) (engine.normalize rule.textual) ≠
      engine.evaluateRule (.ofFacts now facts) (engine.normalize rule)

theorem get?_normalize_of_some {value : Value} (h : rule.get? key = some value) :
    (engine.normalize rule).get? key = some value := by
  have hstored : rule.params.get? key = some value := h
  rw [Rule.get?, get?_params_normalize, hstored, Option.some_or]

theorem evaluateRule_of_legal {type : RuleType} {evaluator : Evaluator}
    (hlookup : engine.catalog.lookup rule.ruleType = some type)
    (hget : engine.evaluators.get? type.id = some evaluator)
    (hlegal : type.accepts rule.operator? = true) (snapshot : Snapshot) :
    engine.evaluateRule snapshot rule =
      if evaluator rule snapshot then .matched else .notMatched := by
  rw [evaluateRule_of_lookup hlookup hget, hlegal, Bool.not_true, if_neg Bool.false_ne_true]

/-- A rule of a built-in type with a legal operator needs an evaluator that tells its two forms
apart once it is normal. -/
theorem mistakes_of_builtin (h : build .standard = .ok engine) {type : RuleType}
    {evaluator : Evaluator} {op : Operator} (hbuiltin : type ∈ Catalog.builtinTypes)
    (hentry : ⟨type.id, evaluator⟩ ∈ EvaluatorTable.builtinEntries)
    (hlegal : type.accepts (some op) = true) (htype : rule.ruleType = type.id)
    (hoperator : engine.catalog.lookup rule.ruleType = some type →
      (engine.normalize rule).operator? = some op)
    (hsole : rule.Sole key t) (hkey : "date_operator" ≠ key)
    (now : Moment) (facts : List Snapshot.Fact)
    (hdiffer : ∀ normal : Rule, normal.operator? = some op →
      (∀ param value, rule.get? param = some value → normal.get? param = some value) →
        evaluator normal.textual (.ofFacts now facts) ≠ evaluator normal (.ofFacts now facts)) :
    engine.Mistakes type.id key t := by
  refine ⟨rule, now, facts, htype, hsole, ?_⟩
  have hlookup : engine.catalog.lookup rule.ruleType = some type :=
    htype ▸ lookup_of_builtin h hbuiltin
  have hop := hoperator hlookup
  have hopText : (engine.normalize rule).textual.operator? = some op := hop
  have hnormal := lookup_normalize hlookup
  have hnormalText : engine.catalog.lookup (engine.normalize rule).textual.ruleType = some type :=
    hnormal
  have hevaluators := hdiffer _ hop fun _ _ => get?_normalize_of_some
  have houtcomes : ∀ a b : Bool, (if a then Outcome.matched else .notMatched) =
      (if b then .matched else .notMatched) → a = b := by decide
  rw [normalize_textual h fun _ s hs => hkey (hsole.only _ s hs),
    evaluateRule_of_legal hnormalText (evaluator_of_builtin h hentry) (hopText ▸ hlegal),
    evaluateRule_of_legal hnormal (evaluator_of_builtin h hentry) (hop ▸ hlegal)]
  exact fun hsame => hevaluators (houtcomes _ _ hsame)

/-- Outside of the date rules the operator is the one that is named. -/
theorem operator?_normalize_of_named {type : RuleType} {op : Operator}
    (hfield : type.operatorField = RuleType.operatorKey) (hoperator : rule.operator = op.name)
    (hlookup : engine.catalog.lookup rule.ruleType = some type) :
    (engine.normalize rule).operator? = some op := by
  rw [operator?_normalize_of_usual hlookup hfield, Rule.operator?, hoperator,
    Operator.ofName?_name]

end Engine

section Totals

open Evaluator

theorem Operator.compare_equalTo (actual low high : Float) :
    (Operator.equalTo.compare actual low high).getD false = (actual == low) := rfl

theorem Operator.compare_between (actual low high : Float) :
    (Operator.between.compare actual low high).getD false =
      (decide (low ≤ actual) && decide (actual ≤ high)) := rfl

theorem natAbs_leadingPart_lt (t : Temporal) : t.leadingPart.natAbs < 2 ^ 64 := by
  have hyear : ∀ d : Date, d.year.natAbs < 2 ^ 64 := by
    intro d
    obtain ⟨hlow, hhigh, -⟩ := d.existing
    omega
  cases t with
  | timeOfDay t =>
    have hhour := t.valid.1
    change (t.hour : Int).natAbs < 2 ^ 64
    omega
  | date d => exact hyear d
  | moment m => exact hyear m.date

theorem number_of_get? {rule : Rule} {key : String} {value : Value}
    (h : rule.get? key = some value) : rule.number key = value.asNumber := by
  rw [Rule.number, h]

/-- As a number the text of an instant is what it starts with. -/
theorem number_textual_of_get? {rule : Rule} {key : String} {t : Temporal}
    (h : rule.get? key = some (.temporal t)) :
    rule.textual.number key = Double.ofInt t.leadingPart := by
  rw [number_of_get? (Rule.get?_textual_of_some h), Value.textual, Value.asNumber,
    Temporal.leading?_text, Option.getD_some]

theorem read_fact (metric : CartMetric) (now : Moment) (n : Nat) :
    metric.read (.ofFacts now [metric.fact n]) = (Double.ofInt n).toFloat := by
  have hint : Double.ofInt n = Double.ofNat n := by
    rw [Double.ofInt, Double.ofNat, decide_eq_false (by omega)]
    rfl
  rw [hint]
  cases metric <;> rfl

theorem Evaluator.CartMetric.exists_typeId {id : String} (h : id ∈ totalTypes) :
    ∃ metric : CartMetric, metric.typeId = id := by
  simp only [totalTypes, List.mem_cons, List.not_mem_nil, or_false] at h
  obtain rfl | rfl | rfl := h
  · exact ⟨.subtotal, rfl⟩
  · exact ⟨.itemCount, rfl⟩
  · exact ⟨.totalWeight, rfl⟩

theorem Evaluator.CartMetric.exists_type (metric : CartMetric) :
    ∃ type ∈ Catalog.builtinTypes, type.id = metric.typeId ∧
      (∀ op ∈ Operator.numeric, type.accepts (some op) = true) ∧
        type.operatorField = RuleType.operatorKey := by
  cases metric <;> decide

theorem Evaluator.CartMetric.mem_builtinEntries (metric : CartMetric) :
    ⟨metric.typeId, cartTotal metric⟩ ∈ EvaluatorTable.builtinEntries := by
  cases metric <;> simp [EvaluatorTable.builtinEntries, CartMetric.typeId]

namespace Engine

variable {engine : Engine} {t : Temporal}

theorem mistakes_of_compare (h : build .standard = .ok engine) (metric : CartMetric) {rule : Rule}
    {key : String} {op : Operator} (htype : rule.ruleType = metric.typeId)
    (hoperator : rule.operator = op.name) (hnumeric : op ∈ Operator.numeric)
    (hsole : rule.Sole key t) (hkey : "date_operator" ≠ key) (n : Nat)
    (hdiffer : ∀ normal : Rule,
      (∀ param value, rule.get? param = some value → normal.get? param = some value) →
        (op.compare (Double.ofInt n).toFloat (normal.textual.number "value").toFloat
          (normal.textual.number "value_two").toFloat).getD false ≠
        (op.compare (Double.ofInt n).toFloat (normal.number "value").toFloat
          (normal.number "value_two").toFloat).getD false) :
    engine.Mistakes metric.typeId key t := by
  obtain ⟨type, hbuiltin, hid, hlegal, hfield⟩ := metric.exists_type
  have hentry := metric.mem_builtinEntries
  rw [← hid] at hentry htype ⊢
  refine mistakes_of_builtin h hbuiltin hentry (hlegal op hnumeric) htype
    (operator?_normalize_of_named hfield hoperator) hsole hkey default [metric.fact n]
    fun normal hop hkept => ?_
  have hopText : normal.textual.operator? = some op := hop
  simp only [cartTotal, hop, hopText, read_fact]
  exact hdiffer normal hkept

theorem isNaN_leadingPart (t : Temporal) : (Double.ofInt t.leadingPart).isNaN = false :=
  Double.isNaN_ofInt (natAbs_leadingPart_lt t)

theorem rank_leadingPart_ne_zero (h : t.leadingPart ≠ 0) :
    (Double.ofInt t.leadingPart).rank ≠ 0 := by
  have hbound := natAbs_leadingPart_lt t
  obtain hneg | hpos := Int.lt_or_gt_of_ne h
  · exact Int.ne_of_lt (Double.rank_ofInt_neg hbound hneg)
  · exact Int.ne_of_gt (Double.rank_ofInt_pos hbound hpos)

theorem mistakes_of_value (h : build .standard = .ok engine) (metric : CartMetric)
    (hleading : t.leadingPart ≠ 0) : engine.Mistakes metric.typeId "value" t := by
  generalize hrule : Rule.withInstant metric.typeId "equal_to" "value" t [] = rule
  have hsole : rule.Sole "value" t := hrule ▸ Rule.sole_withInstant (by simp)
  have htype : rule.ruleType = metric.typeId := hrule ▸ rfl
  have hoperator : rule.operator = Operator.equalTo.name := hrule ▸ rfl
  have hsame : (Double.zero.toFloat == Double.zero.toFloat) = true :=
    (Double.toFloat_beq_iff Double.isNaN_zero Double.isNaN_zero).mpr rfl
  have hother : (Double.zero.toFloat == (Double.ofInt t.leadingPart).toFloat) = false := by
    refine Bool.eq_false_iff.mpr fun heq => ?_
    have hranks := (Double.toFloat_beq_iff Double.isNaN_zero (isNaN_leadingPart t)).mp heq
    exact rank_leadingPart_ne_zero hleading (hranks.symm.trans Double.rank_zero)
  refine mistakes_of_compare h metric htype hoperator (by decide) hsole (by decide) 0
    fun normal hkept => ?_
  have hheld := hkept "value" _ hsole.held
  rw [number_textual_of_get? hheld, number_of_get? hheld, Operator.compare_equalTo,
    Operator.compare_equalTo, Int.natCast_zero, Double.ofInt_zero, hother, Value.asNumber, hsame]
  decide

theorem mistakes_of_valueTwo (h : build .standard = .ok engine) (metric : CartMetric)
    (hleading : t.leadingPart ≠ 0) : engine.Mistakes metric.typeId "value_two" t := by
  generalize hrule : Rule.withInstant metric.typeId "between" "value_two" t
    [("value", .number .zero)] = rule
  have hsole : rule.Sole "value_two" t := hrule ▸ Rule.sole_withInstant (by simp)
  have htype : rule.ruleType = metric.typeId := hrule ▸ rfl
  have hoperator : rule.operator = Operator.between.name := hrule ▸ rfl
  have hlow : rule.get? "value" = some (.number .zero) :=
    hrule ▸ (Rule.get?_withInstant "value").trans (if_neg (by decide))
  have hlength := natAbs_leadingPart_lt t
  -- The total decides if it is on different sides of zero and of the leading part.
  have hcompare : ∀ n : Nat, n < 2 ^ 64 →
      ¬((Double.ofInt n).rank ≤ (Double.ofInt t.leadingPart).rank ↔ (Double.ofInt n).rank ≤ 0) →
        engine.Mistakes metric.typeId "value_two" t := by
    intro n hn hranks
    have hsmall : (n : Int).natAbs < 2 ^ 64 := hn
    have hnan := Double.isNaN_ofInt hsmall
    have hnonneg : 0 ≤ (Double.ofInt n).rank := by
      rw [Double.rank_ofInt hsmall, if_neg (by omega)]
      exact Int.natCast_nonneg _
    have hstart : Double.zero.toFloat ≤ (Double.ofInt n).toFloat :=
      (Double.toFloat_le_iff Double.isNaN_zero hnan).mpr hnonneg
    refine mistakes_of_compare h metric htype hoperator (by decide) hsole (by decide) n
      fun normal hkept => ?_
    have hheld := hkept "value_two" _ hsole.held
    have hbound := hkept "value" _ hlow
    have hboundText : normal.textual.get? "value" = some (.number .zero) :=
      Rule.get?_textual_of_some hbound
    rw [number_of_get? hbound, number_of_get? hboundText, number_textual_of_get? hheld,
      number_of_get? hheld, Operator.compare_between, Operator.compare_between]
    simp only [Value.asNumber, hstart, decide_true, Bool.true_and,
      Double.toFloat_le_iff hnan (isNaN_leadingPart t),
      Double.toFloat_le_iff hnan Double.isNaN_zero, Double.rank_zero]
    exact fun hsame => hranks (decide_eq_decide.mp hsame)
  obtain hneg | hpos := Int.lt_or_gt_of_ne hleading
  · have hrank := Double.rank_ofInt_neg hlength hneg
    refine hcompare 0 (by decide) ?_
    rw [Int.natCast_zero, Double.ofInt_zero, Double.rank_zero]
    omega
  · have hrank := Double.rank_ofInt_pos hlength hpos
    refine hcompare t.leadingPart.toNat (by omega) ?_
    rw [Int.toNat_of_nonneg (Int.le_of_lt hpos)]
    omega

end Engine

end Totals

end ShippingRules
