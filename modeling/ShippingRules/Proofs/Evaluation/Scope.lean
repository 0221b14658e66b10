import ShippingRules.Proofs.Catalog
import ShippingRules.Proofs.Normalization

/-!
What the rules of each type read. The scope of a rule type is a list of parameters and some facts of
the snapshot. An evaluator within a scope answers the same for any two rules and snapshots that
agree there, whatever else they hold; each built-in evaluator is within the scope of its type, so
what a rule comes to depends on nothing else.
-/
namespace ShippingRules

structure Scope where
  params : List String
  /-- Whether two snapshots have the same facts. -/
  SameFacts : Snapshot → Snapshot → Prop

namespace Scope

def reading {Fact : Type} (params : List String) (fact : Snapshot → Fact) : Scope :=
  ⟨params, fun snapshot later => fact later = fact snapshot⟩

/-- The scopes of the rule types that have an evaluator of their own. -/
def builtin : List (String × Scope) := [
  ("cart:subtotal", reading ["value", "value_two"] fun snapshot => snapshot.subtotal),
  ("cart:total_quantity", reading ["value", "value_two"] fun snapshot => snapshot.itemCount),
  ("cart:total_weight", reading ["value", "value_two"] fun snapshot => snapshot.totalWeight),
  ("cart:coupons", reading ["coupons"] fun snapshot => (snapshot.coupons, snapshot.couponCodes)),
  ("date:time", reading ["time_one", "time_two"] fun snapshot => snapshot.now),
  ("date:date", reading ["date_one", "date_two"] fun snapshot => snapshot.now),
  ("date:weekly_days", reading ["weekly_days"] fun snapshot => snapshot.now.date.weekday),
  ("user:users", reading ["users"] fun snapshot => snapshot.customer.id),
  ("user:logged_in", reading ["logged_in"] fun snapshot => snapshot.customer.loggedIn),
  ("billing:city", reading ["billing_cities"] fun snapshot => snapshot.customer.billing.city),
  ("shipping:city", reading ["shipping_cities"] fun snapshot => snapshot.customer.shipping.city),
  ("billing:country",
    reading ["billing_countries"] fun snapshot => snapshot.customer.billing.country),
  ("shipping:country",
    reading ["shipping_countries"] fun snapshot => snapshot.customer.shipping.country)]

def ofDimension : Dimension → Scope
  | .products => reading ["products"] fun snapshot => snapshot.products
  | .terms taxonomy => reading ["cart_products_" ++ taxonomy] fun snapshot =>
      snapshot.termIds taxonomy
  | .shippingClasses => reading ["cart_products_product_shipping_class"] fun snapshot =>
      snapshot.shippingClasses

/-- Rule types without an evaluator have no scope. -/
def ofType? (type : RuleType) : Option Scope :=
  match type.dimension with
  | some dimension => some (ofDimension dimension)
  | none => builtin.lookup type.id

/-- Two rules with the same operator, each on a snapshot, that agree on all that is in scope. -/
structure Agree (scope : Scope) (rule other : Rule) (snapshot later : Snapshot) : Prop where
  operator : other.operator = rule.operator
  params : ∀ key ∈ scope.params, other.get? key = rule.get? key
  facts : scope.SameFacts snapshot later

namespace Agree

variable {scope : Scope} {rule other : Rule} {snapshot later : Snapshot} {key : String}

theorem operator?_eq (h : scope.Agree rule other snapshot later) :
    other.operator? = rule.operator? := congrArg Operator.ofName? h.operator

theorem number_eq (h : scope.Agree rule other snapshot later) (hkey : key ∈ scope.params) :
    other.number key = rule.number key := by
  rw [Rule.number, Rule.number, h.params key hkey]

theorem list_eq (h : scope.Agree rule other snapshot later) (hkey : key ∈ scope.params) :
    other.list key = rule.list key := by
  rw [Rule.list, Rule.list, h.params key hkey]

theorem text_eq (h : scope.Agree rule other snapshot later) (hkey : key ∈ scope.params) :
    other.text key = rule.text key := by
  rw [Rule.text, Rule.text, h.params key hkey]

theorem momentOf?_eq (h : scope.Agree rule other snapshot later) (hkey : key ∈ scope.params) :
    Evaluator.momentOf? other key = Evaluator.momentOf? rule key := by
  funext now
  rw [Evaluator.momentOf?, Evaluator.momentOf?, h.params key hkey]

end Agree

end Scope

namespace Evaluator

/-- The answer depends on nothing out of scope. -/
def Within (evaluator : Evaluator) (scope : Scope) : Prop :=
  ∀ ⦃rule other : Rule⦄ ⦃snapshot later : Snapshot⦄,
    scope.Agree rule other snapshot later → evaluator other later = evaluator rule snapshot

theorem cartTotal_within (metric : CartMetric) {Fact : Type} {fact : Snapshot → Fact}
    (hread : ∀ snapshot later, fact later = fact snapshot →
      metric.read later = metric.read snapshot) :
    (cartTotal metric).Within (.reading ["value", "value_two"] fact) := by
  intro rule other snapshot later h
  have hvalue : other.number "value" = rule.number "value" := h.number_eq List.mem_cons_self
  have htwo : other.number "value_two" = rule.number "value_two" :=
    h.number_eq (List.mem_cons_of_mem _ List.mem_cons_self)
  have hmetric : metric.read later = metric.read snapshot := hread _ _ h.facts
  rw [cartTotal, cartTotal, h.operator?_eq, hvalue, htwo, hmetric]

theorem coupons_within : coupons.Within
    (.reading ["coupons"] fun snapshot => (snapshot.coupons, snapshot.couponCodes)) := by
  intro rule other snapshot later h
  obtain ⟨hcoupons, hcodes⟩ := Prod.mk.inj h.facts
  have hcode : couponCode later = couponCode snapshot := by
    funext entry
    rw [couponCode, couponCode, hcodes]
  rw [coupons, coupons, h.operator?_eq, h.list_eq List.mem_cons_self, hcoupons, hcode]

theorem instant_within (kind : InstantKind) : (instant kind).Within
    (.reading [kind.firstKey, kind.secondKey] fun snapshot => snapshot.now) := by
  intro rule other snapshot later h
  have hnow : later.now = snapshot.now := h.facts
  have hfirst : momentOf? other kind.firstKey = momentOf? rule kind.firstKey :=
    h.momentOf?_eq List.mem_cons_self
  have hsecond : momentOf? other kind.secondKey = momentOf? rule kind.secondKey :=
    h.momentOf?_eq (List.mem_cons_of_mem _ List.mem_cons_self)
  simp only [instant, hnow, hfirst, hsecond, h.operator?_eq]

theorem weeklyDays_within : weeklyDays.Within
    (.reading ["weekly_days"] fun snapshot => snapshot.now.date.weekday) := by
  intro rule other snapshot later h
  have hday : later.now.date.weekday = snapshot.now.date.weekday := h.facts
  rw [weeklyDays, weeklyDays, h.operator?_eq, h.list_eq List.mem_cons_self, hday]

theorem users_within : users.Within (.reading ["users"] fun snapshot => snapshot.customer.id) := by
  intro rule other snapshot later h
  have hid : later.customer.id = snapshot.customer.id := h.facts
  rw [users, users, h.operator?_eq, h.list_eq List.mem_cons_self, hid]

theorem loggedIn_within : loggedIn.Within
    (.reading ["logged_in"] fun snapshot => snapshot.customer.loggedIn) := by
  intro rule other snapshot later h
  have hflag : later.customer.loggedIn = snapshot.customer.loggedIn := h.facts
  have hparam : other.get? "logged_in" = rule.get? "logged_in" := h.params _ List.mem_cons_self
  rw [loggedIn, loggedIn, wantedLogin?, wantedLogin?, hparam, hflag]

theorem city_within (kind : AddressKind) : (city kind).Within
    (.reading [kind.citiesKey] fun snapshot => (kind.address snapshot).city) := by
  intro rule other snapshot later h
  have hcity : (kind.address later).city = (kind.address snapshot).city := h.facts
  rw [city, city, h.operator?_eq, h.text_eq List.mem_cons_self, hcity]

theorem country_within (kind : AddressKind) : (country kind).Within
    (.reading [kind.countriesKey] fun snapshot => (kind.address snapshot).country) := by
  intro rule other snapshot later h
  have hcountry : (kind.address later).country = (kind.address snapshot).country := h.facts
  rw [country, country, h.operator?_eq, h.list_eq List.mem_cons_self, hcountry]

theorem cartItems_within (dimension : Dimension) :
    (cartItems dimension).Within (.ofDimension dimension) := by
  intro rule other snapshot later h
  have hkey : dimension.paramKey ∈ (Scope.ofDimension dimension).params := by
    cases dimension with
    | products | terms taxonomy => exact List.mem_cons_self
    | shippingClasses => exact List.mem_singleton.mpr (by decide)
  have hids : later.dimension dimension = snapshot.dimension dimension := by
    cases dimension with
    | products | terms taxonomy | shippingClasses => exact h.facts
  rw [cartItems, cartItems, h.operator?_eq, h.list_eq hkey, hids]

/-- No built-in evaluator looks beyond the scope of the type that it serves. -/
theorem within_builtin : ∀ entry ∈ EvaluatorTable.builtinEntries,
    ∃ scope, Scope.builtin.lookup entry.id = some scope ∧ entry.evaluator.Within scope := by
  intro entry hentry
  simp only [EvaluatorTable.builtinEntries, List.mem_cons, List.not_mem_nil, or_false] at hentry
  rcases hentry with rfl | rfl | rfl | rfl | rfl | rfl | rfl | rfl | rfl | rfl | rfl | rfl | rfl
  · exact ⟨_, rfl, cartTotal_within .subtotal fun _ _ hfact => hfact⟩
  · exact ⟨_, rfl, cartTotal_within .itemCount fun _ _ hfact =>
      congrArg (fun count => (Double.ofNat count).toFloat) hfact⟩
  · exact ⟨_, rfl, cartTotal_within .totalWeight fun _ _ hfact => hfact⟩
  · exact ⟨_, rfl, coupons_within⟩
  · exact ⟨_, rfl, instant_within .time⟩
  · exact ⟨_, rfl, instant_within .date⟩
  · exact ⟨_, rfl, weeklyDays_within⟩
  · exact ⟨_, rfl, users_within⟩
  · exact ⟨_, rfl, loggedIn_within⟩
  · exact ⟨_, rfl, city_within .billing⟩
  · exact ⟨_, rfl, city_within .shipping⟩
  · exact ⟨_, rfl, country_within .billing⟩
  · exact ⟨_, rfl, country_within .shipping⟩

end Evaluator

namespace Engine

variable {config : Config} {engine : Engine}

/-- Without configured evaluators, the type of every evaluator that runs has a scope. -/
theorem exists_scope (h : build config = .ok engine) (hconfig : config.evaluators = [])
    {type : RuleType} (htype : type ∈ engine.catalog.types.items) {evaluator : Evaluator}
    (hget : engine.evaluators.get? type.id = some evaluator) :
    ∃ scope, Scope.ofType? type = some scope ∧ evaluator.Within scope := by
  rw [Scope.ofType?]
  cases hdimension : type.dimension with
  | some dimension =>
    rw [evaluator_of_dimension h htype hdimension] at hget
    cases hget
    exact ⟨_, rfl, Evaluator.cartItems_within dimension⟩
  | none =>
    obtain hbuiltin | ⟨found, hfound, hid, dimension, hsome, -⟩ := evaluator_cases h hconfig hget
    · exact Evaluator.within_builtin _ hbuiltin
    · -- The evaluator of a dimension serves the one type of its id, and this type has none.
      have hsame : some found = some type :=
        (Catalog.lookup_eq_some_iff.mpr ⟨hfound, hid⟩).symm.trans
          (Catalog.lookup_eq_some_iff.mpr ⟨htype, rfl⟩)
      cases hsame
      rw [hdimension] at hsome
      cases hsome

/-- The scope of the rule type with this id, if there is one. -/
def scope? (engine : Engine) (id : String) : Option Scope :=
  (engine.catalog.lookup id).bind Scope.ofType?

theorem scope?_of_builtin (h : build config = .ok engine) {type : RuleType}
    (htype : type ∈ Catalog.builtinTypes) : engine.scope? type.id = Scope.ofType? type := by
  rw [scope?, lookup_of_builtin h htype, Option.bind_some]

/-- A rule sees its own data only. In an engine without configured evaluators, two rules of one type
come to the same on two snapshots if they agree within the scope of the type, whatever their other
parameters, kept fields and facts. Where the type has no scope they always do. -/
theorem evaluateRule_of_agree (h : build config = .ok engine) (hconfig : config.evaluators = [])
    {rule other : Rule} {snapshot later : Snapshot} (htype : other.ruleType = rule.ruleType)
    (hscope : ∀ scope, engine.scope? rule.ruleType = some scope →
      scope.Agree rule other snapshot later) :
    engine.evaluateRule later other = engine.evaluateRule snapshot rule := by
  apply evaluateRule_congr htype
  intro type evaluator hlookup hget
  obtain ⟨hmem, -⟩ := Catalog.lookup_eq_some_iff.mp hlookup
  obtain ⟨scope, hof, hwithin⟩ := exists_scope h hconfig hmem hget
  have hagree : scope.Agree rule other snapshot later := by
    apply hscope
    rw [scope?, hlookup, Option.bind_some, hof]
  exact ⟨hagree.operator?_eq, hwithin hagree⟩

/-- A rule on the billing city alone. -/
def billedInOslo : Rule :=
  { Rule.new "billing:city" "any_in_list" with
    params := .ofList [("billing_cities", .text "Oslo")] }

/-- The rule with parameters of other types, and a kept field. -/
def billedInOsloNoted : Rule :=
  { billedInOslo with
    params := .ofList [("billing_cities", .text "Oslo"), ("shipping_cities", .text "Rome"),
      ("users", .list ["7"])]
    extra := .ofList [("note", .null)] }

def osloGuest : Snapshot := .ofFacts default [.customer ⟨none, false, ⟨"Oslo", "NO"⟩, ⟨"", ""⟩⟩]

/-- Everything but the city on the bill is another. -/
def osloMember : Snapshot :=
  .ofFacts ⟨⟨2024, 2, 29, by decide⟩, ⟨21, 15, 0, 0, by decide⟩⟩
    [.itemCount 3, .coupon "spring", .customer ⟨some "7", true, ⟨"Oslo", "SE"⟩, ⟨"Rome", "IT"⟩⟩]

theorem evaluateRule_of_agree_billedInOslo :
    ∃ engine, build .standard = .ok engine ∧
      engine.evaluateRule osloGuest billedInOslo = .matched ∧
      engine.evaluateRule osloMember billedInOsloNoted =
        engine.evaluateRule osloGuest billedInOslo := by
  have hstandard : (build .standard).toOption.any (fun engine =>
      engine.evaluateRule osloGuest billedInOslo == .matched) = true := by
    decide +kernel
  obtain ⟨engine, hengine, hmatched⟩ := exists_standard_of_any hstandard
  refine ⟨engine, hengine, eq_of_beq hmatched, evaluateRule_of_agree hengine rfl rfl ?_⟩
  intro scope hscope
  have hbilling : RuleType.new "billing:city" "billing" 10 Operator.membership ∈
      Catalog.builtinTypes := by decide
  have hof : engine.scope? billedInOslo.ruleType = Scope.builtin.lookup "billing:city" :=
    scope?_of_builtin hengine hbilling
  rw [hof] at hscope
  cases hscope
  exact ⟨rfl, List.forall_mem_singleton.mpr rfl, rfl⟩

end Engine

end ShippingRules
