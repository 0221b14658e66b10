import ShippingRules.Engine.Basic
import ShippingRules.Proofs.Settings.StoredRule
import ShippingRules.Proofs.Template

/-!
Normalizing a rule. A default is filled in under exactly the keys that the rule stores nothing
under, so what a rule stores is kept, and a normal rule gains no defaults. Normalizing what is left
of a normal rule after writing and reading gives the same rule without its shadowed parameters.
-/
namespace ShippingRules

theorem Rule.eq_of_fields {a b : Rule} (htype : a.ruleType = b.ruleType)
    (hoperator : a.operator = b.operator) (hparams : a.params = b.params)
    (hextra : a.extra = b.extra) : a = b := by
  cases a
  cases b
  cases htype
  cases hoperator
  cases hparams
  cases hextra
  rfl

namespace Template

theorem fillOne_eq (rule : Rule) (entry : String × Value) :
    fillOne rule entry = { rule with params := (fillOne rule entry).params } := by
  unfold fillOne
  split <;> rfl

theorem get?_fillOne (rule : Rule) (entry : String × Value) (key : String) :
    (fillOne rule entry).params.get? key =
      (rule.params.get? key).or
        (if rule.extra.contains key then none
          else if entry.1 = key then some entry.2 else none) := by
  unfold fillOne
  by_cases hstored : rule.params.contains entry.1 = true ∨ rule.extra.contains entry.1 = true
  · rw [if_pos (by rwa [Bool.or_eq_true])]
    by_cases hkey : entry.1 = key
    · subst hkey
      rcases hstored with hparam | hextra
      · obtain ⟨value, hvalue⟩ := Fields.contains_iff_exists.mp hparam
        rw [hvalue, Option.some_or]
      · rw [if_pos hextra, Option.or_none]
    · rw [if_neg hkey, ite_self, Option.or_none]
  · rw [if_neg (by rwa [Bool.or_eq_true]), Fields.get?_insert]
    rw [not_or] at hstored
    by_cases hkey : entry.1 = key
    · subst hkey
      have hnone : rule.params.get? entry.1 = none := Option.not_isSome_iff_eq_none.mp hstored.1
      rw [if_pos rfl, if_neg hstored.2, if_pos rfl, hnone, Option.none_or]
    · rw [if_neg fun hcon => hkey hcon.symm, if_neg hkey, ite_self, Option.or_none]

theorem foldl_fillOne_eq (entries : List (String × Value)) (rule : Rule) :
    entries.foldl fillOne rule = { rule with params := (entries.foldl fillOne rule).params } := by
  induction entries generalizing rule with
  | nil => rfl
  | cons entry rest ih =>
    rw [List.foldl_cons, ih]
    rw [fillOne_eq]

theorem get?_foldl_fillOne (entries : List (String × Value)) (rule : Rule) (key : String) :
    (entries.foldl fillOne rule).params.get? key =
      (rule.params.get? key).or
        (if rule.extra.contains key then none else Fields.lookup key entries) := by
  induction entries generalizing rule with
  | nil => rw [Fields.lookup, ite_self, Option.or_none]; rfl
  | cons entry rest ih =>
    have hextra : (fillOne rule entry).extra = rule.extra := by rw [fillOne_eq]
    rw [List.foldl_cons, ih, hextra, get?_fillOne, Option.or_assoc]
    by_cases hstored : rule.extra.contains key = true
    · simp only [if_pos hstored, Option.or_none]
    · simp only [if_neg hstored, Fields.lookup]
      by_cases hkey : entry.1 = key
      · simp only [if_pos hkey, Option.some_or]
      · simp only [if_neg hkey, Option.none_or]

variable (template : Template) (rule : Rule)

/-- Filling in defaults changes the parameters alone. -/
theorem fill_eq : template.fill rule = { rule with params := (template.fill rule).params } :=
  foldl_fillOne_eq template.defaults.entries rule

theorem get?_fill (key : String) :
    (template.fill rule).params.get? key =
      (rule.params.get? key).or
        (if rule.extra.contains key then none else template.get? key) :=
  get?_foldl_fillOne template.defaults.entries rule key

theorem extra_normalize (type : Option RuleType) :
    (template.normalize rule type).extra = rule.extra := by
  rw [normalize, fill_eq]

theorem ruleType_normalize (type : Option RuleType) :
    (template.normalize rule type).ruleType = rule.ruleType := by
  rw [normalize, fill_eq]

theorem operator_normalize (type : Option RuleType) :
    (template.normalize rule type).operator =
      (liftedOperator? (template.fill rule) type).getD rule.operator := by
  have hfill : (template.fill rule).operator = rule.operator := by rw [fill_eq]
  rw [← hfill]
  rfl

/-- Every default can be stored as a parameter. -/
def Storable : Prop :=
  ∀ key value, template.get? key = some value → Rule.isHeader key = false ∧ value.Storable

variable {template rule}

theorem liftedOperator?_congr {a b : Rule} (h : ∀ key, a.text key = b.text key)
    (type : Option RuleType) : liftedOperator? a type = liftedOperator? b type := by
  simp only [liftedOperator?, h]

theorem Storable.insertAll (h : template.Storable) {entries : List (String × Value)}
    (hentries : ∀ entry ∈ entries, Rule.isHeader entry.1 = false ∧ entry.2.Storable) :
    (template.insertAll entries).Storable := by
  intro key value hget
  rw [get?_insertAll, ← Fields.get?_ofList] at hget
  obtain hentry | ⟨-, hstored⟩ := Option.or_eq_some_iff.mp hget
  · exact hentries (key, value) (Fields.mem_of_get?_ofList hentry)
  · exact h key value hstored

theorem isHeader_paramKey (dimension : Dimension) : Rule.isHeader dimension.paramKey = false := by
  cases dimension with
  | products => rfl
  | shippingClasses => rfl
  | terms taxonomy =>
    have hhead : ("cart_products_" ++ taxonomy).toList.head? = some 'c' := by
      rw [String.toList_append]
      rfl
    have hne : ∀ key : String, key.toList.head? ≠ some 'c' →
        "cart_products_" ++ taxonomy ≠ key := by
      rintro key hkey rfl
      exact hkey hhead
    refine Bool.eq_false_iff.mpr fun hheader => ?_
    rcases Rule.isHeader_eq_true_iff.mp hheader with htype | hoperator
    · exact hne _ (by decide) htype
    · exact hne _ (by decide) hoperator

theorem storable_builtin (taxonomies : List String) : (builtin taxonomies).Storable := by
  rw [builtin]
  apply Storable.insertAll
  · intro key value h
    cases h
  · intro entry hentry
    simp only [List.mem_append, List.mem_map] at hentry
    rcases hentry with ((⟨key, hkey, rfl⟩ | ⟨key, hkey, rfl⟩) | hentry) | ⟨taxonomy, -, rfl⟩
    · have hkeys : ∀ key ∈ textKeys, Rule.isHeader key = false := by decide
      exact ⟨hkeys key hkey, trivial⟩
    · have hkeys : ∀ key ∈ listKeys, Rule.isHeader key = false := by decide
      exact ⟨hkeys key hkey, trivial⟩
    · simp only [List.mem_cons, List.not_mem_nil, or_false] at hentry
      rcases hentry with rfl | rfl | rfl
      · exact ⟨by decide, trivial⟩
      · exact ⟨by decide, trivial⟩
      · exact ⟨isHeader_paramKey .products, trivial⟩
    · exact ⟨isHeader_paramKey _, trivial⟩

end Template

namespace Engine

variable {engine : Engine}

theorem eq_of_build {config : Config} (h : build config = .ok engine) :
    engine.template = (Template.builtin config.taxonomies).insertAll config.defaults ∧
      engine.override = config.override := by
  unfold build at h
  split at h
  · cases h
  · split at h
    · cases h
    · split at h
      · cases h
      · split at h
        · cases h
        · cases h
          exact ⟨rfl, rfl⟩

/-- What a test says of the engine of a configuration is so of that engine. -/
theorem exists_of_any {config : Config} {test : Engine → Bool}
    (h : (build config).toOption.any test = true) :
    ∃ engine, build config = .ok engine ∧ test engine = true := by
  cases hengine : build config with
  | ok engine =>
    rw [hengine] at h
    exact ⟨engine, rfl, h⟩
  | error error =>
    rw [hengine] at h
    cases h

theorem exists_standard_of_any {test : Engine → Bool}
    (h : (build .standard).toOption.any test = true) :
    ∃ engine, build .standard = .ok engine ∧ test engine = true := exists_of_any h

theorem exists_standard : ∃ engine, build .standard = .ok engine := by
  have hbuilt : (build .standard).toOption.any (fun _ => true) = true := by decide +kernel
  obtain ⟨engine, hengine, -⟩ := exists_of_any hbuilt
  exact ⟨engine, hengine⟩

theorem storable_template_of_standard (h : build .standard = .ok engine) :
    engine.template.Storable := by
  rw [(eq_of_build h).1]
  apply (Template.storable_builtin Config.standard.taxonomies).insertAll
  intro entry hentry
  cases hentry

section Normalize

variable {rule : Rule}

theorem extra_normalize : (engine.normalize rule).extra = rule.extra :=
  Template.extra_normalize engine.template rule _

theorem ruleType_normalize : (engine.normalize rule).ruleType = rule.ruleType :=
  Template.ruleType_normalize engine.template rule _

theorem lookup_normalize {type : RuleType}
    (hlookup : engine.catalog.lookup rule.ruleType = some type) :
    engine.catalog.lookup (engine.normalize rule).ruleType = some type := by
  rw [ruleType_normalize, hlookup]

theorem operator_normalize_of_usual {type : RuleType}
    (hlookup : engine.catalog.lookup rule.ruleType = some type)
    (hfield : type.operatorField = RuleType.operatorKey) :
    (engine.normalize rule).operator = rule.operator := by
  rw [normalize, hlookup, Template.operator_normalize]
  simp only [Template.liftedOperator?, Option.bind_eq_bind, Option.bind_some, if_pos hfield,
    Option.getD_none]

theorem operator?_normalize_of_usual {type : RuleType}
    (hlookup : engine.catalog.lookup rule.ruleType = some type)
    (hfield : type.operatorField = RuleType.operatorKey) :
    (engine.normalize rule).operator? = rule.operator? := by
  rw [Rule.operator?, operator_normalize_of_usual hlookup hfield, Rule.operator?]

/-- A type that keeps its operator under another field has it from the parameters, those filled in
included. -/
theorem operator_normalize_of_field {type : RuleType}
    (hlookup : engine.catalog.lookup rule.ruleType = some type)
    (hfield : type.operatorField ≠ RuleType.operatorKey) :
    (engine.normalize rule).operator =
      if Text.trim ((engine.template.fill rule).text type.operatorField) = "" then rule.operator
      else Text.trim ((engine.template.fill rule).text type.operatorField) := by
  rw [normalize, hlookup, Template.operator_normalize]
  simp only [Template.liftedOperator?, Option.bind_eq_bind, Option.bind_some, if_neg hfield]
  split <;> rfl

/-- A normal rule has a default under exactly the keys that the rule stored nothing under. -/
theorem get?_params_normalize (key : String) :
    (engine.normalize rule).params.get? key =
      (rule.params.get? key).or
        (if rule.extra.contains key then none else engine.template.get? key) :=
  Template.get?_fill engine.template rule key

theorem filed_normalize (htemplate : engine.template.Storable) (h : rule.Filed) :
    (engine.normalize rule).Filed := by
  refine ⟨?_, ?_, ?_, ?_⟩
  · rw [ruleType_normalize]
    exact h.current
  · intro key value hget
    rw [get?_params_normalize] at hget
    rcases Option.or_eq_some_iff.mp hget with hparam | ⟨-, hdefault⟩
    · exact h.param hparam
    · split at hdefault
      · cases hdefault
      · exact htemplate key value hdefault
  · intro key json hget
    rw [extra_normalize] at hget
    exact h.extra hget
  · rw [extra_normalize, ruleType_normalize]
    exact h.defaultType

/-- Defaults are not filled in under the keys of kept fields. -/
theorem get?_params_normalize_of_extra {key : String} (h : rule.extra.contains key = true) :
    (engine.normalize rule).params.get? key = rule.params.get? key := by
  rw [get?_params_normalize, if_pos h, Option.or_none]

/-- Only under keys without a parameter do kept fields matter: there they hold back defaults. -/
theorem normalize_of_params {other : Rule} (htype : other.ruleType = rule.ruleType)
    (hoperator : other.operator = rule.operator) (hparams : other.params = rule.params)
    (hextra : ∀ key, rule.params.get? key = none → other.extra.get? key = rule.extra.get? key) :
    engine.normalize other = { engine.normalize rule with extra := other.extra } := by
  have hfilled : (engine.normalize other).params = (engine.normalize rule).params := by
    apply Fields.ext_get?
    intro key
    rw [get?_params_normalize, get?_params_normalize, hparams]
    cases hparam : rule.params.get? key with
    | some value => rw [Option.some_or, Option.some_or]
    | none => rw [Fields.contains, hextra key hparam, ← Fields.contains]
  have htext : ∀ key, (engine.template.fill other).text key =
      (engine.template.fill rule).text key := by
    intro key
    have hfill : (engine.template.fill other).params = (engine.template.fill rule).params := hfilled
    rw [Rule.text, Rule.text, Rule.get?, Rule.get?, hfill]
  apply Rule.eq_of_fields
  · exact ruleType_normalize.trans (htype.trans ruleType_normalize.symm)
  · have hlifted := Template.liftedOperator?_congr htext (engine.catalog.lookup rule.ruleType)
    rw [normalize, htype, Template.operator_normalize, hlifted, hoperator]
    exact (Template.operator_normalize engine.template rule _).symm
  · exact hfilled
  · exact extra_normalize

theorem params_normalize_reread :
    (engine.normalize (engine.normalize rule).reread).params =
      (engine.normalize rule).unshadowed.params := by
  have hextra : (engine.normalize rule).reread.extra = rule.extra := extra_normalize
  apply Fields.ext_get?
  intro key
  rw [get?_params_normalize, hextra, Rule.reread, Rule.unshadowed, Fields.get?_filter,
    extra_normalize, get?_params_normalize]
  cases hstored : rule.extra.contains key with
  | true =>
    rw [if_pos rfl, Option.or_none]
  | false =>
    rw [if_neg Bool.false_ne_true]
    cases rule.params.get? key with
    | some value => rfl
    | none => cases engine.template.get? key <;> rfl

theorem text_normalize_reread (engine : Engine) (h : rule.ShadowsLists) (key : String) :
    (engine.template.fill (engine.normalize rule).reread).text key =
      (engine.template.fill rule).text key := by
  have hleft : (engine.template.fill (engine.normalize rule).reread).params =
      (engine.normalize rule).unshadowed.params := params_normalize_reread
  have hright : (engine.template.fill rule).params = (engine.normalize rule).params := rfl
  unfold Rule.text Rule.get?
  rw [hleft, hright, Rule.unshadowed, Fields.get?_filter, extra_normalize]
  cases hstored : rule.extra.contains key with
  | false => cases (engine.normalize rule).params.get? key <;> rfl
  | true =>
    rw [get?_params_normalize_of_extra hstored]
    cases hparam : rule.params.get? key with
    | none => rfl
    | some value =>
      obtain ⟨items, rfl⟩ := h key value hparam hstored
      rfl

theorem operator_normalize_reread (hoperator : rule.readOperator = rule.operator)
    (h : rule.ShadowsLists) :
    (engine.normalize (engine.normalize rule).reread).operator =
      (engine.normalize rule).operator := by
  have htype : (engine.normalize rule).reread.ruleType = rule.ruleType := ruleType_normalize
  have hlifted := Template.liftedOperator?_congr (text_normalize_reread engine h)
    (engine.catalog.lookup rule.ruleType)
  have hnormal : (engine.normalize rule).operator =
      (Template.liftedOperator? (engine.template.fill rule)
        (engine.catalog.lookup rule.ruleType)).getD rule.operator :=
    Template.operator_normalize engine.template rule _
  have hagain : (engine.normalize (engine.normalize rule).reread).operator =
      (Template.liftedOperator? (engine.template.fill (engine.normalize rule).reread)
        (engine.catalog.lookup rule.ruleType)).getD (engine.normalize rule).readOperator := by
    rw [← htype]
    exact Template.operator_normalize engine.template (engine.normalize rule).reread _
  rw [hagain, hlifted]
  cases hstored : Template.liftedOperator? (engine.template.fill rule)
      (engine.catalog.lookup rule.ruleType) with
  | some op =>
    rw [hstored] at hnormal
    exact hnormal.symm
  | none =>
    -- Without a lifted operator the operator is the stored one, which reading left alone.
    rw [hstored, Option.getD_none] at hnormal
    rw [Option.getD_none, hnormal, ← hoperator, Rule.readOperator, Rule.readOperator,
      extra_normalize, hnormal]

/-- Normalizing what is left of a normal rule only misses the shadowed parameters. -/
theorem normalize_reread (hoperator : rule.readOperator = rule.operator) (h : rule.ShadowsLists) :
    engine.normalize (engine.normalize rule).reread = (engine.normalize rule).unshadowed := by
  apply Rule.eq_of_fields
  · exact ruleType_normalize
  · exact operator_normalize_reread hoperator h
  · exact params_normalize_reread
  · exact extra_normalize

end Normalize

end Engine

end ShippingRules
