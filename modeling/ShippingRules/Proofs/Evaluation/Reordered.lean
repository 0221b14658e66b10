import ShippingRules.Proofs.Assembly
import ShippingRules.Proofs.Evaluation.Scope

/-!
Carts told in another order. What a snapshot holds is told by the facts alone, and a reordering of
them that keeps the order of repeated statements keeps what they tell. So the rules on the
identifiers, the coupons and the item count of a cart come to the same, in every engine.
-/
namespace ShippingRules

open Snapshot (Fact Draft Told Reordered SameCart)

namespace Engine

variable {config : Config} {engine : Engine} {rule : Rule}

/-- The rule is on a set of identifiers, on the coupons, or on the item count. -/
def AsksOfCart (engine : Engine) (rule : Rule) : Prop :=
  ∃ type, engine.catalog.lookup rule.ruleType = some type ∧
    ((∃ dimension, type.dimension = some dimension) ∨ type.id = "cart:coupons" ∨
      type.id = "cart:total_quantity")

/-- What is in the scope of such a rule, two snapshots of one cart have in common. -/
theorem evaluateRule_of_sameCart (h : build config = .ok engine) (hasks : engine.AsksOfCart rule)
    {facts : List Fact} {snapshot later : Snapshot} (hcart : SameCart facts snapshot later) :
    engine.evaluateRule later rule = engine.evaluateRule snapshot rule := by
  apply evaluateRule_congr rfl
  intro found evaluator hfound hget
  refine ⟨rfl, ?_⟩
  obtain ⟨type, hlookup, hkind⟩ := hasks
  obtain rfl : found = type := Option.some.inj (hfound.symm.trans hlookup)
  obtain ⟨dimension, hdimension⟩ | hid | hid := hkind
  · obtain ⟨hmem, -⟩ := Catalog.lookup_eq_some_iff.mp hfound
    rw [evaluator_of_dimension h hmem hdimension] at hget
    cases hget
    refine Evaluator.cartItems_within dimension ⟨rfl, fun _ _ => rfl, ?_⟩
    cases dimension with
    | products => exact hcart.products
    | terms taxonomy => exact hcart.termIds taxonomy
    | shippingClasses => exact hcart.shippingClasses
  · have hcoupons : ⟨"cart:coupons", Evaluator.coupons⟩ ∈ EvaluatorTable.builtinEntries := by
      simp [EvaluatorTable.builtinEntries]
    rw [hid, evaluator_of_builtin h hcoupons] at hget
    cases hget
    exact Evaluator.coupons_within
      ⟨rfl, fun _ _ => rfl, Prod.ext hcart.coupons hcart.couponCodes⟩
  · have hquantity : ⟨"cart:total_quantity", Evaluator.cartTotal .itemCount⟩ ∈
        EvaluatorTable.builtinEntries := by
      simp [EvaluatorTable.builtinEntries]
    rw [hid, evaluator_of_builtin h hquantity] at hget
    cases hget
    have hread : ∀ snapshot later : Snapshot, later.itemCount = snapshot.itemCount →
        Evaluator.CartMetric.itemCount.read later =
          Evaluator.CartMetric.itemCount.read snapshot :=
      fun _ _ hcount => congrArg (fun count => (Double.ofNat count).toFloat) hcount
    exact Evaluator.cartTotal_within .itemCount hread ⟨rfl, fun _ _ => rfl, hcart.itemCount⟩

/-- However a cart is told: stating the facts one by one comes to the snapshot, the snapshot holds
what they say, and in another order they come to the same cart and the same outcomes. -/
theorem evaluateRule_reordered (now : Moment) (facts : List Fact) :
    (Draft.run now facts).snapshot = .ofFacts now facts ∧
      Told facts (.ofFacts now facts) ∧
      ∀ later, Reordered facts later →
        SameCart facts (.ofFacts now facts) (.ofFacts now later) ∧
          ∀ config engine, build config = .ok engine → ∀ rule, engine.AsksOfCart rule →
            engine.evaluateRule (.ofFacts now later) rule =
              engine.evaluateRule (.ofFacts now facts) rule := by
  refine ⟨Draft.snapshot_run now facts, Snapshot.told_ofFacts now facts, ?_⟩
  intro later hreordered
  have hcart := hreordered.sameCart now
  exact ⟨hcart, fun config engine hengine rule hasks =>
    evaluateRule_of_sameCart hengine hasks hcart⟩

/-- Two pieces of a product whose shipping class is none. -/
def twoPieces : CartLine := ⟨"9", 2, 0, 0, some "0", []⟩

/-- The rest of a cart, with the item count stated twice. -/
def countedCart : List Fact := [.itemCount 4, .couponCode "7" "spring",
  .line ⟨"0", 1, 0, 0, none, []⟩, .coupon "spring", .itemCount 5]

/-- A rule that finds the coupon by its id. -/
def springRule : Rule :=
  { Rule.new "cart:coupons" "any_in_list" with params := .ofList [("coupons", .list ["7"])] }

theorem evaluateRule_reordered_springRule :
    ∃ engine, build .standard = .ok engine ∧
      Reordered (.line twoPieces :: countedCart) (countedCart ++ [.line twoPieces]) ∧
      engine.evaluateRule (.ofFacts default (.line twoPieces :: countedCart)) springRule =
        .matched ∧
      engine.evaluateRule (.ofFacts default (countedCart ++ [.line twoPieces])) springRule =
        .matched := by
  have hstandard : (build .standard).toOption.any (fun engine =>
      engine.evaluateRule (.ofFacts default (.line twoPieces :: countedCart)) springRule ==
        .matched) = true := by
    decide +kernel
  obtain ⟨engine, hengine, hmatched⟩ := exists_standard_of_any hstandard
  have hreordered :
      Reordered (.line twoPieces :: countedCart) (countedCart ++ [.line twoPieces]) :=
    ⟨(List.perm_append_singleton _ _).symm, rfl, rfl, rfl, rfl, rfl⟩
  have hcoupons : RuleType.new "cart:coupons" "cart" 25 Operator.membership ∈
      Catalog.builtinTypes := by decide
  have hasks : engine.AsksOfCart springRule :=
    ⟨_, lookup_of_builtin hengine hcoupons, .inr (.inl rfl)⟩
  obtain ⟨-, -, hsame⟩ := evaluateRule_reordered default (.line twoPieces :: countedCart)
  obtain ⟨-, houtcome⟩ := hsame _ hreordered
  refine ⟨engine, hengine, hreordered, eq_of_beq hmatched, ?_⟩
  rw [houtcome _ engine hengine springRule hasks]
  exact eq_of_beq hmatched

end Engine

end ShippingRules
