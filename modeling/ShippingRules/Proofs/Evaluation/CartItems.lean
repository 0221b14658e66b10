import ShippingRules.Proofs.Catalog
import ShippingRules.Proofs.Evaluator.Membership
import ShippingRules.Proofs.Normalization
import ShippingRules.Proofs.Snapshot
import ShippingRules.Proofs.Template

/-!
Rules on the identifiers of a cart, from the lines of the cart to the outcome. The rule type of a
taxonomy, its evaluator, its parameter with the default, and the set it inspects each have a name
made from that of the taxonomy; whatever the taxonomies are, these names meet, and the outcome is
what the operator says of the listed identifiers and of those that the lines have.
-/
namespace ShippingRules

/-- The rule is run, and it matches just when the condition holds. -/
def Outcome.Tells (outcome : Outcome) (condition : Prop) : Prop :=
  outcome = .matched ∧ condition ∨ outcome = .notMatched ∧ ¬condition

/-- The outcome of asking which of the listed identifiers are present. -/
def Outcome.TellsMembership (outcome : Outcome) (op : Option Operator) (listed : List String)
    (present : String → Prop) : Prop :=
  match op with
  | some .anyInList => outcome.Tells (∃ id ∈ listed, present id)
  | some .allInList => outcome.Tells (∀ id ∈ listed, present id)
  | some .notInList => outcome.Tells (∀ id ∈ listed, ¬present id)
  | _ => outcome = .illegalOperator

/-- A rule lists these identifiers under a key: it stores them as a list, or it has no parameter
there and no default for it is configured. -/
inductive Rule.Lists (defaults : List (String × Value)) (rule : Rule) (key : String) :
    List String → Prop
  | stored {listed : List String} (param : rule.params.get? key = some (.list listed)) :
      Lists defaults rule key listed
  | missing (param : rule.params.get? key = none) (unset : ∀ entry ∈ defaults, entry.1 ≠ key) :
      Lists defaults rule key []

/-- Some line has this id for a taxonomy. Shipping classes are no terms, and the ids that stand for
none are no shipping class. -/
def HasTerm (lines : List CartLine) (taxonomy id : String) : Prop :=
  if taxonomy = "product_shipping_class" then
    (id ≠ "" ∧ id ≠ "0") ∧ ∃ line ∈ lines, line.shippingClass = some id
  else ∃ line ∈ lines, (taxonomy, id) ∈ line.terms

/-- Some line is of this product. -/
def HasProduct (lines : List CartLine) (id : String) : Prop :=
  (id ≠ "" ∧ id ≠ "0") ∧ ∃ line ∈ lines, line.productId = id

theorem Dimension.paramKey_ofTaxonomy (taxonomy : String) :
    (ofTaxonomy taxonomy).paramKey = "cart_products_" ++ taxonomy := by
  unfold ofTaxonomy
  split
  · rename_i hclasses
    rw [hclasses, paramKey]
  · rw [paramKey]

theorem Snapshot.mem_dimension_ofTaxonomy {now : Moment} {facts : List Fact}
    {taxonomy id : String} :
    id ∈ (ofFacts now facts).dimension (.ofTaxonomy taxonomy) ↔
      HasTerm (facts.filterMap Fact.line?) taxonomy id := by
  rw [Dimension.ofTaxonomy, HasTerm, shippingClassTaxonomy]
  by_cases hclasses : taxonomy = "product_shipping_class"
  · rw [if_pos hclasses, if_pos hclasses, dimension, mem_shippingClasses_ofFacts]
  · rw [if_neg hclasses, if_neg hclasses, dimension, mem_termIds_ofFacts]

theorem Outcome.tells_ite {hit : Bool} {condition : Prop} (h : hit = true ↔ condition) :
    Tells (if hit then .matched else .notMatched) condition := by
  cases hit with
  | true => exact .inl ⟨rfl, h.mp rfl⟩
  | false => exact .inr ⟨rfl, fun hcondition => absurd (h.mpr hcondition) Bool.false_ne_true⟩

theorem Outcome.Tells.eq_matched_iff {outcome : Outcome} {condition : Prop}
    (h : outcome.Tells condition) : outcome = .matched ↔ condition := by
  obtain ⟨rfl, hcondition⟩ | ⟨rfl, hcondition⟩ := h
  · exact iff_of_true rfl hcondition
  · exact iff_of_false (by decide) hcondition

/-- The operators that a set can be asked with are the legal ones, so the others are refused. -/
theorem tellsMembership_of_setwise {type : RuleType} (htype : type.operators = Operator.setwise)
    (op : Option Operator) (listed : List String) {present : String → Bool} {p : String → Prop}
    (hpresent : ∀ id, present id = true ↔ p id) :
    Outcome.TellsMembership
      (if !type.accepts op then .illegalOperator
        else if Evaluator.membership op listed present then .matched else .notMatched)
      op listed p := by
  obtain rfl : p = fun id => present id = true := funext fun id => propext (hpresent id).symm
  rw [RuleType.accepts, htype]
  match op with
  | some .anyInList => exact Outcome.tells_ite Evaluator.membership_anyInList_iff
  | some .allInList => exact Outcome.tells_ite Evaluator.membership_allInList_iff
  | some .notInList => exact Outcome.tells_ite Evaluator.membership_notInList_iff
  | none | some .equalTo | some .lessThan | some .lessThanOrEqual | some .greaterThanOrEqual
  | some .greaterThan | some .between | some .notBetween | some .before | some .after => rfl

namespace Engine

variable {config : Config} {engine : Engine} {type : RuleType} {dimension : Dimension} {rule : Rule}

theorem evaluateRule_of_dimension (h : build config = .ok engine)
    (hlookup : engine.catalog.lookup rule.ruleType = some type)
    (hdimension : type.dimension = some dimension) (snapshot : Snapshot) :
    engine.evaluateRule snapshot rule =
      if !type.accepts rule.operator? then .illegalOperator
      else if Evaluator.membership rule.operator? (rule.list dimension.paramKey)
        (snapshot.dimension dimension).contains then .matched
      else .notMatched := by
  obtain ⟨htype, -⟩ := Catalog.lookup_eq_some_iff.mp hlookup
  exact evaluateRule_of_lookup hlookup (evaluator_of_dimension h htype hdimension) snapshot

/-- What a normal rule lists is what it stored, since the built-in defaults list nothing. -/
theorem list_normalize (h : build config = .ok engine) {key : String} {listed : List String}
    (hlists : rule.Lists config.defaults key listed) :
    (engine.normalize rule).list key = listed := by
  rw [Rule.list, Rule.get?, get?_params_normalize]
  cases hlists with
  | stored hparam =>
    rw [hparam, Option.some_or]
    rfl
  | missing hparam hunset =>
    rw [hparam, Option.none_or, (eq_of_build h).1, Template.get?_insertAll_of_ne hunset]
    by_cases hkept : rule.extra.contains key = true
    · rw [if_pos hkept]
    · rw [if_neg hkept]
      cases hdefault : (Template.builtin config.taxonomies).get? key with
      | none => rfl
      | some value => exact Template.asList_of_builtin hdefault

theorem tellsMembership_of_lookup (h : build config = .ok engine)
    (hlookup : engine.catalog.lookup rule.ruleType = some type)
    (hoperators : type.operators = Operator.setwise)
    (hfield : type.operatorField = RuleType.operatorKey)
    (hdimension : type.dimension = some dimension) {listed : List String}
    (hlists : rule.Lists config.defaults dimension.paramKey listed) {snapshot : Snapshot}
    {p : String → Prop} (hpresent : ∀ id, id ∈ snapshot.dimension dimension ↔ p id) :
    (engine.evaluateRule snapshot (engine.normalize rule)).TellsMembership rule.operator?
      listed p := by
  rw [evaluateRule_of_dimension h (lookup_normalize hlookup) hdimension,
    operator?_normalize_of_usual hlookup hfield, list_normalize h hlists]
  exact tellsMembership_of_setwise hoperators rule.operator? listed fun id =>
    IdSet.contains_iff.trans (hpresent id)

/-- Rules on the terms of a taxonomy and on products, for any taxonomies and any cart. -/
theorem evaluateRule_tellsMembership (h : build config = .ok engine) (now : Moment)
    (facts : List Snapshot.Fact) (rule : Rule) (listed : List String) :
    (∀ taxonomy ∈ config.taxonomies, rule.ruleType = "cart_products:" ++ taxonomy →
      rule.Lists config.defaults ("cart_products_" ++ taxonomy) listed →
        (engine.evaluateRule (.ofFacts now facts) (engine.normalize rule)).TellsMembership
          rule.operator? listed (HasTerm (facts.filterMap Snapshot.Fact.line?) taxonomy)) ∧
      (rule.ruleType = "cart_products:products" → rule.Lists config.defaults "products" listed →
        (engine.evaluateRule (.ofFacts now facts) (engine.normalize rule)).TellsMembership
          rule.operator? listed (HasProduct (facts.filterMap Snapshot.Fact.line?))) := by
  constructor
  · intro taxonomy htaxonomy htype hlists
    obtain ⟨priority, hlookup⟩ := lookup_of_taxonomy h htaxonomy
    rw [← Dimension.paramKey_ofTaxonomy] at hlists
    rw [Catalog.taxonomyTypeId, ← htype] at hlookup
    exact tellsMembership_of_lookup h hlookup rfl rfl rfl hlists
      fun id => Snapshot.mem_dimension_ofTaxonomy
  · intro htype hlists
    have hproducts : (RuleType.new "cart_products:products" "cart_products" 5
        Operator.setwise).withDimension .products ∈ Catalog.builtinTypes := by decide
    have hlookup := lookup_of_builtin h hproducts
    exact tellsMembership_of_lookup h (htype ▸ hlookup) rfl rfl rfl hlists
      fun id => Snapshot.mem_products_ofFacts

/-- One taxonomy, which no store has unless it is configured. -/
def brandConfig : Config := { Config.standard with taxonomies := ["brand"] }

/-- A cart with one line, of a product of brand 7. -/
def brandCart : List Snapshot.Fact := [.line ⟨"9", 1, 0, 0, some "0", [("brand", "7")]⟩]

def brandRule : Rule :=
  { Rule.new "cart_products:brand" "all_in_list" with
    params := .ofList [("cart_products_brand", .list ["7", "7"])] }

/-- No product is excluded by a rule that lists none. -/
def noProductsRule : Rule := .new "cart_products:products" "not_in_list"

theorem evaluateRule_tellsMembership_brand :
    ∃ engine, build brandConfig = .ok engine ∧
      engine.evaluateRule (.ofFacts default brandCart) (engine.normalize brandRule) = .matched ∧
      engine.evaluateRule (.ofFacts default brandCart) (engine.normalize noProductsRule) =
        .matched := by
  have hbuilt : (build brandConfig).toOption.any (fun _ => true) = true := by decide +kernel
  obtain ⟨engine, hengine, -⟩ := exists_of_any hbuilt
  have hunset : ∀ key, ∀ entry ∈ brandConfig.defaults, entry.1 ≠ key :=
    fun _ _ hentry => absurd hentry List.not_mem_nil
  obtain ⟨hbrand, -⟩ :=
    evaluateRule_tellsMembership hengine default brandCart brandRule ["7", "7"]
  obtain ⟨-, hproducts⟩ := evaluateRule_tellsMembership hengine default brandCart noProductsRule []
  refine ⟨engine, hengine, ?_, ?_⟩
  · refine (hbrand "brand" List.mem_cons_self rfl (.stored rfl)).eq_matched_iff.mpr ?_
    intro id hid
    obtain rfl : id = "7" := by simpa using hid
    exact ⟨_, List.mem_cons_self, List.mem_cons_self⟩
  · refine (hproducts rfl (.missing rfl (hunset "products"))).eq_matched_iff.mpr ?_
    intro id hid
    cases hid

end Engine

end ShippingRules
