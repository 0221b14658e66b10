import ShippingRules.Evaluator.Basic
import ShippingRules.Fields.Lemmas
import ShippingRules.Proofs.Number.NotANumber

/-!
Ranges of cart totals. A total is outside of a range just when it is not inside, unless a NaN is
compared: a total that is no number is on neither side, and a bound that is no number leaves the
decision to the other one. A parameter is read as NaN only if it is a stored NaN, and a total is a
number unless it is stated as none or a line adds an infinite amount.
-/
namespace ShippingRules

/-- The rule has a number under the key that is a NaN. -/
def Rule.HoldsNaN (rule : Rule) (key : String) : Prop :=
  ∃ x : Double, rule.get? key = some (.number x) ∧ x.isNaN = true

/-- The total that was stated last is a number; if none was stated, every amount is finite. -/
def TotalIsNumber (stated amounts : List Float) : Prop :=
  match stated.getLast? with
  | some total => total.isNaN = false
  | none => ∀ amount ∈ amounts, amount.isFinite = true

namespace Value

theorem isNaN_asNumber_iff {value : Value} :
    value.asNumber.isNaN = true ↔ ∃ x : Double, value = .number x ∧ x.isNaN = true := by
  cases value with
  | number x => simp [asNumber]
  | text s =>
    have hnumber : (asNumber (.text s)).isNaN = false := by
      rw [asNumber]
      cases h : Numeral.leading? s with
      | none => exact Double.isNaN_zero
      | some x => exact Numeral.isNaN_of_leading? h
    simp [hnumber]
  | list items => simp [asNumber, Double.isNaN_zero]
  | temporal t => simp [asNumber, Double.isNaN_zero]
  | bool b => simp [asNumber, Double.isNaN_ofNat]

end Value

theorem Rule.isNaN_number_iff {rule : Rule} {key : String} :
    (rule.number key).isNaN = true ↔ rule.HoldsNaN key := by
  rw [Rule.number, Rule.HoldsNaN]
  cases rule.get? key with
  | none => simp [Double.isNaN_zero]
  | some value => simp only [Value.isNaN_asNumber_iff, Option.some.injEq]

namespace Evaluator

theorem isNaN_total {stated : List Float} {lines : List CartLine} {amount : CartLine → Float}
    (h : TotalIsNumber stated (lines.map amount)) :
    (stated.getLast?.getD
      (lines.foldl (fun sum line => sum + amount line) Double.zero.toFloat)).isNaN = false := by
  unfold TotalIsNumber at h
  cases hlast : stated.getLast? with
  | some total =>
    rw [hlast] at h
    exact h
  | none =>
    rw [hlast] at h
    have hzero : Double.zero.toFloat.isNaN = false :=
      (Double.isNaN_toFloat _).trans Double.isNaN_zero
    exact Double.isNaN_foldl_add hzero fun line hline => h _ (List.mem_map_of_mem hline)

namespace CartMetric

/-- The facts make this total a number. -/
def IsNumber (metric : CartMetric) (facts : List Snapshot.Fact) : Prop :=
  let lines := facts.filterMap Snapshot.Fact.line?
  match metric with
  | subtotal =>
    TotalIsNumber (facts.filterMap Snapshot.Fact.subtotal?) (lines.map CartLine.subtotal)
  | itemCount => True
  | totalWeight =>
    TotalIsNumber (facts.filterMap Snapshot.Fact.totalWeight?)
      (lines.map fun line => line.unitWeight * (Double.ofNat line.quantity).toFloat)

theorem IsNumber.isNaN_read {metric : CartMetric} {facts : List Snapshot.Fact}
    (h : metric.IsNumber facts) (now : Moment) :
    (metric.read (.ofFacts now facts)).isNaN = false := by
  cases metric with
  | subtotal => exact isNaN_total h
  | itemCount => exact (Double.isNaN_toFloat _).trans (Double.isNaN_ofNat _)
  | totalWeight => exact isNaN_total h

end CartMetric

section Ranges

variable {total low high : Float}

theorem decide_lt_of_isNaN (h : low.isNaN = true ∨ high.isNaN = true) :
    decide (low < high) = false := decide_eq_false (Double.not_lt_of_isNaN h)

theorem decide_le_of_isNaN (h : low.isNaN = true ∨ high.isNaN = true) :
    decide (low ≤ high) = false := decide_eq_false (Double.not_le_of_isNaN h)

theorem decide_lt_eq_not (hlow : low.isNaN = false) (hhigh : high.isNaN = false) :
    decide (low < high) = !decide (high ≤ low) := by
  rw [← decide_not]
  exact decide_eq_decide.mpr (Double.lt_iff_not_le hlow hhigh)

/-- Outside is the opposite of inside for totals that are numbers, if a bound that is none is not
needed. -/
theorem outside_eq_not_inside_iff :
    (decide (total < low) || decide (high < total)) =
        !(decide (low ≤ total) && decide (total ≤ high)) ↔
      total.isNaN = false ∧ (low.isNaN = true → high < total) ∧
        (high.isNaN = true → total < low) := by
  cases htotal : total.isNaN with
  | true =>
    rw [decide_lt_of_isNaN (.inl htotal), decide_lt_of_isNaN (.inr htotal),
      decide_le_of_isNaN (.inr htotal)]
    simp
  | false =>
    cases hlow : low.isNaN with
    | true =>
      have hnever : ¬total < low := Double.not_lt_of_isNaN (.inr hlow)
      have hhigh : high < total → high.isNaN = false := fun hlt =>
        Bool.eq_false_iff.mpr fun hnan => Double.not_lt_of_isNaN (.inl hnan) hlt
      rw [decide_eq_false hnever, decide_le_of_isNaN (.inl hlow)]
      simpa [hnever] using hhigh
    | false =>
      cases hhigh : high.isNaN with
      | true =>
        rw [decide_lt_of_isNaN (.inl hhigh), decide_le_of_isNaN (.inr hhigh)]
        simp
      | false =>
        rw [decide_lt_eq_not htotal hlow, decide_lt_eq_not hhigh htotal]
        simp

end Ranges

theorem cartTotal_withOperator (metric : CartMetric) (rule : Rule) (op : Operator)
    (snapshot : Snapshot) :
    cartTotal metric { rule with operator := op.name } snapshot =
      (op.compare (metric.read snapshot) (rule.number "value").toFloat
        (rule.number "value_two").toFloat).getD false := by
  rw [cartTotal, Rule.operator?_withOperator]
  rfl

theorem isNaN_toFloat_number_iff {rule : Rule} {key : String} :
    (rule.number key).toFloat.isNaN = true ↔ rule.HoldsNaN key := by
  rw [Double.isNaN_toFloat, Rule.isNaN_number_iff]

/-- For any rule and any cart, `not_between` is the negation of `between` exactly if the total is a
number and a bound that is none is not needed to see that the total is out of range; and a total is
a number unless it is stated as none or an infinite amount is added. -/
theorem cartTotal_notBetween (metric : CartMetric) (rule : Rule) (now : Moment)
    (facts : List Snapshot.Fact) :
    let total := metric.read (.ofFacts now facts)
    let answer (op : String) :=
      cartTotal metric { rule with operator := op } (.ofFacts now facts)
    (answer "not_between" = !answer "between" ↔
        total.isNaN = false ∧
          (rule.HoldsNaN "value" → (rule.number "value_two").toFloat < total) ∧
          (rule.HoldsNaN "value_two" → total < (rule.number "value").toFloat)) ∧
      (metric.IsNumber facts → total.isNaN = false) := by
  intro total answer
  have houtside : answer "not_between" = _ := cartTotal_withOperator metric rule .notBetween _
  have hinside : answer "between" = _ := cartTotal_withOperator metric rule .between _
  refine ⟨?_, fun h => h.isNaN_read now⟩
  rw [houtside, hinside, ← isNaN_toFloat_number_iff, ← isNaN_toFloat_number_iff]
  exact outside_eq_not_inside_iff

/-- From nothing to ten. -/
def uptoTen : Rule :=
  { Rule.new "cart:total_weight" "between" with
    params := .ofList [("value", .text "0"), ("value_two", .text "10 kg")] }

/-- A cart of ten pieces that weigh this much each, and ten that weigh as much below zero. -/
def balancedCart (weight : Nat) : List Snapshot.Fact := [
  .line ⟨"7", 10, 0, (Double.ofInt weight).toFloat, none, []⟩,
  .line ⟨"8", 10, 0, (Double.ofInt (-weight)).toFloat, none, []⟩]

theorem cartTotal_notBetween_balanced :
    CartMetric.totalWeight.IsNumber (balancedCart 2) ∧
      cartTotal .totalWeight { uptoTen with operator := "not_between" }
          (.ofFacts default (balancedCart 2)) =
        !cartTotal .totalWeight { uptoTen with operator := "between" }
          (.ofFacts default (balancedCart 2)) := by
  have hnumber : CartMetric.totalWeight.IsNumber (balancedCart 2) := by
    intro amount hamount
    have hall : ((balancedCart 2).filterMap Snapshot.Fact.line?).all (fun line =>
        (line.unitWeight * (Double.ofNat line.quantity).toFloat).isFinite) = true := by
      decide +kernel
    obtain ⟨line, hline, rfl⟩ := List.mem_map.mp hamount
    exact List.all_eq_true.mp hall line hline
  have hheld : ∀ key, ¬uptoTen.HoldsNaN key := by
    intro key hnan
    obtain ⟨x, hx, -⟩ := hnan
    have hmem := Fields.mem_of_get?_ofList hx
    simp at hmem
  obtain ⟨hopposite, htotal⟩ := cartTotal_notBetween .totalWeight uptoTen default (balancedCart 2)
  exact ⟨hnumber, hopposite.mpr ⟨htotal hnumber, fun hlow => absurd hlow (hheld _),
    fun hhigh => absurd hhigh (hheld _)⟩⟩

/-- The weights of both lines overflow, and their sum is no number, neither up to ten nor beyond. -/
theorem cartTotal_overflowing :
    cartTotal .totalWeight { uptoTen with operator := "between" }
        (.ofFacts default (balancedCart (Nat.pow 10 308))) = false ∧
      cartTotal .totalWeight { uptoTen with operator := "not_between" }
        (.ofFacts default (balancedCart (Nat.pow 10 308))) = false := by
  decide +kernel

end Evaluator

end ShippingRules
