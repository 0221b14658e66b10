import ShippingRules.Proofs.Evaluation.CartItems

/-!
Built-in defaults and the meaning of rules. A default reads like a missing parameter to every
evaluator but one, so filling it in changes no outcome; only a rule on the login state, which means
nothing without its parameter, comes to ask for guests. Apart from that, normalizing changes what a
rule means only where it lifts the operator, in the types on dates.
-/
namespace ShippingRules

theorem Rule.number_eq_getD (rule : Rule) (key : String) :
    rule.number key = ((rule.params.get? key).map Value.asNumber).getD Double.zero := by
  rw [number, get?]
  cases rule.params.get? key <;> rfl

theorem Rule.list_eq_getD (rule : Rule) (key : String) :
    rule.list key = ((rule.params.get? key).map Value.asList).getD [] := by
  rw [list, get?]
  cases rule.params.get? key <;> rfl

/-- Two rules that read the same. The two texts that are left out are those of choices. -/
structure Rule.ReadsAs (rule other : Rule) : Prop where
  operator : other.operator = rule.operator
  number : ∀ key, other.number key = rule.number key
  list : ∀ key, other.list key = rule.list key
  moment : ∀ key, Evaluator.momentOf? other key = Evaluator.momentOf? rule key
  text : ∀ key, key ∉ ["cart_value_type", "logged_in"] → other.text key = rule.text key

namespace Rule.ReadsAs

variable {rule other : Rule} {snapshot : Snapshot}

theorem operator? (h : rule.ReadsAs other) : other.operator? = rule.operator? :=
  congrArg Operator.ofName? h.operator

theorem cartItems_eq (h : rule.ReadsAs other) (dimension : Dimension) :
    Evaluator.cartItems dimension other snapshot = Evaluator.cartItems dimension rule snapshot := by
  simp only [Evaluator.cartItems, h.operator?, h.list]

/-- The built-in evaluators tell no difference, but the one that asks for a login state may. -/
theorem evaluator_eq (h : rule.ReadsAs other) {entry : Evaluator.Entry}
    (hentry : entry ∈ EvaluatorTable.builtinEntries)
    (hlogin : entry.id = "user:logged_in" →
      Evaluator.wantedLogin? other = Evaluator.wantedLogin? rule) :
    entry.evaluator other snapshot = entry.evaluator rule snapshot := by
  have hbilling : other.text "billing_cities" = rule.text "billing_cities" :=
    h.text _ (by decide)
  have hshipping : other.text "shipping_cities" = rule.text "shipping_cities" :=
    h.text _ (by decide)
  simp only [EvaluatorTable.builtinEntries, List.mem_cons, List.not_mem_nil, or_false] at hentry
  obtain rfl | rfl | rfl | rfl | rfl | rfl | rfl | rfl | rfl | rfl | rfl | rfl | rfl := hentry
  · simp only [Evaluator.cartTotal, h.operator?, h.number]
  · simp only [Evaluator.cartTotal, h.operator?, h.number]
  · simp only [Evaluator.cartTotal, h.operator?, h.number]
  · simp only [Evaluator.coupons, h.operator?, h.list]
  · simp only [Evaluator.instant, h.operator?, h.moment]
  · simp only [Evaluator.instant, h.operator?, h.moment]
  · simp only [Evaluator.weeklyDays, h.operator?, h.list]
  · simp only [Evaluator.users, h.operator?, h.list]
  · simp only [Evaluator.loggedIn, hlogin rfl]
  · simp only [Evaluator.city, Evaluator.AddressKind.citiesKey, h.operator?, hbilling]
  · simp only [Evaluator.city, Evaluator.AddressKind.citiesKey, h.operator?, hshipping]
  · simp only [Evaluator.country, h.operator?, h.list]
  · simp only [Evaluator.country, h.operator?, h.list]

end Rule.ReadsAs

namespace Template

variable {template : Template} {rule : Rule} {taxonomies : List String}

/-- A reading for which every default under a key is like a missing parameter does not see whether
defaults are filled in. -/
theorem reading_fill {Reading : Type} (read : Option Value → Reading) {key : String}
    (h : ∀ value, template.get? key = some value → read (some value) = read none) :
    read ((template.fill rule).params.get? key) = read (rule.params.get? key) := by
  rw [get?_fill]
  cases rule.params.get? key with
  | some value => rw [Option.some_or]
  | none =>
    rw [Option.none_or]
    split
    · rfl
    · cases hdefault : template.get? key with
      | none => rfl
      | some value => exact h value hdefault

theorem number_fill_builtin (rule : Rule) (key : String) :
    ((builtin taxonomies).fill rule).number key = rule.number key := by
  rw [Rule.number_eq_getD, Rule.number_eq_getD]
  refine reading_fill (fun stored => (stored.map Value.asNumber).getD Double.zero)
    fun value hdefault => ?_
  obtain rfl | rfl | ⟨-, rfl⟩ | ⟨-, rfl⟩ := cases_of_builtin hdefault <;> decide

theorem list_fill_builtin (rule : Rule) (key : String) :
    ((builtin taxonomies).fill rule).list key = rule.list key := by
  rw [Rule.list_eq_getD, Rule.list_eq_getD]
  exact reading_fill (fun stored => (stored.map Value.asList).getD []) fun _ => asList_of_builtin

theorem moment_fill_builtin (rule : Rule) (key : String) :
    Evaluator.momentOf? ((builtin taxonomies).fill rule) key = Evaluator.momentOf? rule key := by
  funext now
  refine reading_fill (fun stored => stored.bind fun value =>
    value.asTemporal?.bind fun t => some (t.resolve now)) fun value hdefault => ?_
  have hnone : value.asTemporal? = none := by
    obtain rfl | rfl | ⟨-, rfl⟩ | ⟨-, rfl⟩ := cases_of_builtin hdefault <;> decide
  rw [Option.bind_some, hnone]
  rfl

theorem text_fill_builtin (rule : Rule) {key : String}
    (hkey : key ∉ ["cart_value_type", "logged_in"]) :
    ((builtin taxonomies).fill rule).text key = rule.text key := by
  refine reading_fill (fun stored => (stored.bind Value.asText?).getD "") fun value hdefault => ?_
  obtain rfl | rfl | ⟨rfl, -⟩ | ⟨rfl, -⟩ := cases_of_builtin hdefault
  · rfl
  · rfl
  · exact absurd (by decide) hkey
  · exact absurd (by decide) hkey

/-- Unless it is told otherwise, a rule on the login state asks for guests. -/
theorem get?_loggedIn_builtin : (builtin taxonomies).get? "logged_in" = some (.text "no") := by
  have hother : ∀ entry ∈ taxonomies.map fun taxonomy =>
      ((Dimension.ofTaxonomy taxonomy).paramKey, Value.list []), entry.1 ≠ "logged_in" := by
    intro entry hentry heq
    obtain ⟨taxonomy, -, rfl⟩ := List.mem_map.mp hentry
    have hkey : (Dimension.ofTaxonomy taxonomy).paramKey = "logged_in" := heq
    have hhead : ("cart_products_" ++ taxonomy).toList.head? = some 'c' := by
      rw [String.toList_append]
      rfl
    rw [← Dimension.paramKey_ofTaxonomy, hkey] at hhead
    exact absurd hhead (by decide)
  rw [builtin, insertAll, List.foldl_append, ← insertAll, ← insertAll,
    get?_insertAll_of_ne hother]
  decide +kernel

end Template

/-- The rule with the text under `date_operator` for its operator, unless that is blank. -/
def Rule.withDateOperator (rule : Rule) : Rule :=
  let stored := Text.trim (rule.text "date_operator")
  { rule with operator := if stored = "" then rule.operator else stored }

/-- A rule on the login state that does not say which. -/
structure Rule.AsksNoLogin (rule : Rule) : Prop where
  ruleType : rule.ruleType = "user:logged_in"
  params : rule.params.get? "logged_in" = none
  extra : rule.extra.get? "logged_in" = none

namespace Engine

variable {config : Config} {engine : Engine} {rule : Rule} {type : RuleType}

/-- The type of the rule is in this group. -/
def InGroup (engine : Engine) (rule : Rule) (group : String) : Prop :=
  ∃ type, engine.catalog.lookup rule.ruleType = some type ∧ type.group = group

theorem template_of_build (h : build config = .ok engine) (hdefaults : config.defaults = []) :
    engine.template = .builtin config.taxonomies := by
  rw [(eq_of_build h).1, hdefaults, Template.insertAll, List.foldl_nil]

/-- Without configured rule types, just those on dates keep their operator under a field of their
own. -/
theorem operatorField_of_lookup (h : build config = .ok engine) (htypes : config.ruleTypes = [])
    {id : String} (hlookup : engine.catalog.lookup id = some type) :
    type.operatorField = if type.group = "date" then "date_operator" else RuleType.operatorKey := by
  obtain ⟨htype, -⟩ := Catalog.lookup_eq_some_iff.mp hlookup
  have hbuiltin : ∀ type ∈ Catalog.builtinTypes, type.operatorField =
      if type.group = "date" then "date_operator" else RuleType.operatorKey := by decide
  rw [types_of_build h, htypes, List.append_nil, List.mem_append] at htype
  rcases htype with hstandard | htaxonomy
  · exact hbuiltin type hstandard
  · obtain ⟨-, -, -, rfl⟩ := Catalog.mem_taxonomyTypes_iff.mp htaxonomy
    rfl

/-- But for its operator, a normal rule reads as the rule does. -/
theorem readsAs_normalize (h : build config = .ok engine) (hdefaults : config.defaults = []) :
    Rule.ReadsAs { rule with operator := (engine.normalize rule).operator }
      (engine.normalize rule) := by
  have hparams : (engine.normalize rule).params =
      ((Template.builtin config.taxonomies).fill rule).params := by
    rw [← template_of_build h hdefaults]
    rfl
  have hget : ∀ key, (engine.normalize rule).get? key =
      ((Template.builtin config.taxonomies).fill rule).get? key := by
    intro key
    rw [Rule.get?, hparams, Rule.get?]
  constructor
  · rfl
  · intro key
    rw [Rule.number, hget]
    exact Template.number_fill_builtin rule key
  · intro key
    rw [Rule.list, hget]
    exact Template.list_fill_builtin rule key
  · intro key
    funext now
    rw [Evaluator.momentOf?, hget]
    exact congrFun (Template.moment_fill_builtin rule key) now
  · intro key hkey
    rw [Rule.text, hget]
    exact Template.text_fill_builtin rule hkey

theorem wantedLogin?_congr {other : Rule} (h : other.get? "logged_in" = rule.get? "logged_in") :
    Evaluator.wantedLogin? other = Evaluator.wantedLogin? rule := by
  rw [Evaluator.wantedLogin?, Evaluator.wantedLogin?, h]

/-- A rule on the login state that stores something under its parameter is not given the default. -/
theorem get?_loggedIn_normalize (hlogin : ¬rule.AsksNoLogin)
    (htype : rule.ruleType = "user:logged_in") :
    (engine.normalize rule).get? "logged_in" = rule.get? "logged_in" := by
  rw [Rule.get?, Rule.get?, get?_params_normalize]
  cases hparam : rule.params.get? "logged_in" with
  | some value => rw [Option.some_or]
  | none =>
    have hextra : rule.extra.contains "logged_in" = true :=
      Option.isSome_iff_ne_none.mpr fun hnone => hlogin ⟨htype, hparam, hnone⟩
    rw [if_pos hextra, Option.none_or]

/-- Normalizing changes nothing but what it makes of the operator, and of a rule that asks for no
login state. -/
theorem evaluateRule_normalize_operator (h : build config = .ok engine)
    (hevaluators : config.evaluators = []) (hdefaults : config.defaults = [])
    (hlogin : ¬rule.AsksNoLogin) (snapshot : Snapshot) :
    engine.evaluateRule snapshot (engine.normalize rule) =
      engine.evaluateRule snapshot
        { rule with operator := (engine.normalize rule).operator } := by
  have hreads : Rule.ReadsAs { rule with operator := (engine.normalize rule).operator }
      (engine.normalize rule) := readsAs_normalize h hdefaults
  refine evaluateRule_congr ruleType_normalize fun type evaluator hlookup hget => ?_
  refine ⟨hreads.operator?, ?_⟩
  obtain hbuiltin | ⟨-, -, -, dimension, -, rfl⟩ := evaluator_cases h hevaluators hget
  · refine hreads.evaluator_eq hbuiltin fun hid => ?_
    obtain ⟨-, hsame⟩ := Catalog.lookup_eq_some_iff.mp hlookup
    exact wantedLogin?_congr (get?_loggedIn_normalize hlogin (hsame.symm.trans hid))
  · exact hreads.cartItems_eq dimension

section Operator

variable (h : build config = .ok engine) (htypes : config.ruleTypes = [])
include h htypes

theorem operator_normalize_of_not_date (hdate : ¬engine.InGroup rule "date") :
    (engine.normalize rule).operator = rule.operator := by
  cases hlookup : engine.catalog.lookup rule.ruleType with
  | none =>
    rw [normalize, hlookup, Template.operator_normalize]
    rfl
  | some type =>
    refine operator_normalize_of_usual hlookup ?_
    rw [operatorField_of_lookup h htypes hlookup,
      if_neg fun hgroup => hdate ⟨type, hlookup, hgroup⟩]

theorem operator_normalize_of_date (hdefaults : config.defaults = [])
    (hdate : engine.InGroup rule "date") :
    (engine.normalize rule).operator = rule.withDateOperator.operator := by
  obtain ⟨type, hlookup, hgroup⟩ := hdate
  have hfield : type.operatorField = "date_operator" := by
    rw [operatorField_of_lookup h htypes hlookup, if_pos hgroup]
  have hother : type.operatorField ≠ RuleType.operatorKey := by
    rw [hfield]
    decide
  rw [operator_normalize_of_field hlookup hother, hfield, template_of_build h hdefaults,
    Template.text_fill_builtin rule (by decide), Rule.withDateOperator]

end Operator

section Login

variable (h : build config = .ok engine)
include h

theorem lookup_loggedIn :
    engine.catalog.lookup "user:logged_in" = some (.new "user:logged_in" "user" 20 []) := by
  have htype : RuleType.new "user:logged_in" "user" 20 [] ∈ Catalog.builtinTypes := by decide
  exact lookup_of_builtin h htype

/-- Rules on the login state take any operator. -/
theorem evaluateRule_loggedIn (htype : rule.ruleType = "user:logged_in") (snapshot : Snapshot) :
    engine.evaluateRule snapshot rule =
      if Evaluator.loggedIn rule snapshot then .matched else .notMatched := by
  have hlookup : engine.catalog.lookup rule.ruleType = _ :=
    (congrArg engine.catalog.lookup htype).trans (lookup_loggedIn h)
  have hentry : ⟨"user:logged_in", Evaluator.loggedIn⟩ ∈ EvaluatorTable.builtinEntries := by
    simp [EvaluatorTable.builtinEntries]
  exact evaluateRule_of_lookup hlookup (evaluator_of_builtin h hentry) snapshot

theorem not_inGroup_date_of_asksNoLogin (hlogin : rule.AsksNoLogin) :
    ¬engine.InGroup rule "date" := by
  rintro ⟨type, hlookup, hgroup⟩
  rw [hlogin.ruleType, lookup_loggedIn h] at hlookup
  cases hlookup
  exact absurd hgroup (by decide)

theorem notMatched_of_asksNoLogin (hlogin : rule.AsksNoLogin) (snapshot : Snapshot) :
    engine.evaluateRule snapshot rule = .notMatched := by
  have hwanted : Evaluator.wantedLogin? rule = none := by
    rw [Evaluator.wantedLogin?, Rule.get?, hlogin.params]
  rw [evaluateRule_loggedIn h hlogin.ruleType, Evaluator.loggedIn, hwanted]
  rfl

theorem tells_normalize_of_asksNoLogin (hdefaults : config.defaults = [])
    (hlogin : rule.AsksNoLogin) (snapshot : Snapshot) :
    (engine.evaluateRule snapshot (engine.normalize rule)).Tells
      (snapshot.customer.loggedIn = false) := by
  have hextra : ¬rule.extra.contains "logged_in" = true := by
    rw [Fields.contains, hlogin.extra]
    decide
  have hget : (engine.normalize rule).get? "logged_in" = some (.text "no") := by
    rw [Rule.get?, get?_params_normalize, hlogin.params, Option.none_or, if_neg hextra,
      template_of_build h hdefaults, Template.get?_loggedIn_builtin]
  have hwanted : Evaluator.wantedLogin? (engine.normalize rule) = some false := by
    rw [Evaluator.wantedLogin?, hget]
    decide
  rw [evaluateRule_loggedIn h (ruleType_normalize.trans hlogin.ruleType), Evaluator.loggedIn,
    hwanted]
  apply Outcome.tells_ite
  cases snapshot.customer.loggedIn <;> decide

end Login

/-- What normalizing does to the outcome of a rule, if nothing but taxonomies is configured. -/
theorem evaluateRule_normalize (h : build config = .ok engine) (htypes : config.ruleTypes = [])
    (hevaluators : config.evaluators = []) (hdefaults : config.defaults = []) (rule : Rule)
    (snapshot : Snapshot) :
    (¬engine.InGroup rule "date" → ¬rule.AsksNoLogin →
      engine.evaluateRule snapshot (engine.normalize rule) =
        engine.evaluateRule snapshot rule) ∧
      (rule.AsksNoLogin → engine.evaluateRule snapshot rule = .notMatched ∧
        (engine.evaluateRule snapshot (engine.normalize rule)).Tells
          (snapshot.customer.loggedIn = false)) ∧
      (engine.InGroup rule "date" →
        engine.evaluateRule snapshot (engine.normalize rule) =
          engine.evaluateRule snapshot rule.withDateOperator) := by
  refine ⟨?_, ?_, ?_⟩
  · intro hdate hlogin
    rw [evaluateRule_normalize_operator h hevaluators hdefaults hlogin,
      operator_normalize_of_not_date h htypes hdate]
  · intro hlogin
    exact ⟨notMatched_of_asksNoLogin h hlogin snapshot,
      tells_normalize_of_asksNoLogin h hdefaults hlogin snapshot⟩
  · intro hdate
    have hlogin : ¬rule.AsksNoLogin := fun hlogin => not_inGroup_date_of_asksNoLogin h hlogin hdate
    rw [evaluateRule_normalize_operator h hevaluators hdefaults hlogin,
      operator_normalize_of_date h htypes hdefaults hdate, Rule.withDateOperator]

/-- A rule on dates that stores two operators. -/
def noonRule : Rule :=
  { Rule.new "date:time" "before" with
    params := .ofList [("date_operator", .text " after "), ("time_one", .text "12:00")] }

/-- What a guest with an empty cart brings at one o'clock. -/
def afternoon : Snapshot := .ofFacts ⟨default, ⟨13, 0, 0, 0, by decide⟩⟩ []

/-- A rule on the login state and one on dates, which a guest matches once they are normal, and a
rule on users, which is unchanged. -/
theorem evaluateRule_normalize_afternoon :
    ∃ engine, build .standard = .ok engine ∧
      engine.evaluateRule afternoon (.new "user:logged_in" "") = .notMatched ∧
      engine.evaluateRule afternoon (engine.normalize (.new "user:logged_in" "")) = .matched ∧
      engine.evaluateRule afternoon noonRule = .notMatched ∧
      engine.evaluateRule afternoon (engine.normalize noonRule) = .matched ∧
      engine.evaluateRule afternoon (engine.normalize (.new "user:users" "not_in_list")) =
        engine.evaluateRule afternoon (.new "user:users" "not_in_list") := by
  have hnoon : (build .standard).toOption.any (fun engine =>
      engine.evaluateRule afternoon noonRule == .notMatched &&
        engine.evaluateRule afternoon noonRule.withDateOperator == .matched) = true := by
    decide +kernel
  obtain ⟨engine, hengine, houtcomes⟩ := exists_standard_of_any hnoon
  simp only [Bool.and_eq_true, beq_iff_eq] at houtcomes
  obtain ⟨hbefore, hafter⟩ := houtcomes
  have htime : Catalog.dateType "date:time" 5 Operator.temporal ∈ Catalog.builtinTypes := by decide
  have husers : RuleType.new "user:users" "user" 10 Operator.membership ∈ Catalog.builtinTypes := by
    decide
  have hdate : engine.InGroup noonRule "date" := ⟨_, lookup_of_builtin hengine htime, rfl⟩
  have hother : ¬engine.InGroup (.new "user:users" "not_in_list") "date" := by
    rintro ⟨type, hlookup, hgroup⟩
    obtain rfl := Option.some.inj ((lookup_of_builtin hengine husers).symm.trans hlookup)
    exact absurd hgroup (by decide)
  obtain ⟨-, hguest, -⟩ :=
    evaluateRule_normalize hengine rfl rfl rfl (.new "user:logged_in" "") afternoon
  obtain ⟨hbare, hfilled⟩ := hguest ⟨rfl, rfl, rfl⟩
  obtain ⟨-, -, hlifted⟩ := evaluateRule_normalize hengine rfl rfl rfl noonRule afternoon
  obtain ⟨hkept, -, -⟩ :=
    evaluateRule_normalize hengine rfl rfl rfl (.new "user:users" "not_in_list") afternoon
  exact ⟨engine, hengine, hbare, hfilled.eq_matched_iff.mpr rfl, hbefore,
    (hlifted hdate).trans hafter,
    hkept hother fun hlogin => absurd hlogin.ruleType (by decide)⟩

end Engine

end ShippingRules
