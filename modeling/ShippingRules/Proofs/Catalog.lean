import ShippingRules.Proofs.Evaluator.Table

/-!
What a built engine has. Registering adds at the end, so the rule types are the built-in ones, one
for each taxonomy, and the configured ones, and each is found under its id. A type with a cart
dimension has the evaluator of that dimension, whichever others are configured.
-/
namespace ShippingRules

namespace Catalog

variable {catalog grown : Catalog}

theorem items_of_register {type : RuleType} (h : catalog.register type = (.ok (), grown)) :
    grown.types.items = catalog.types.items ++ [type] := by
  unfold register at h
  split at h
  · rename_i types hadd
    cases h
    exact Directory.items_of_add? hadd
  · cases h

theorem groups_of_register {type : RuleType} (h : catalog.register type = (.ok (), grown)) :
    grown.groups = catalog.groups := by
  unfold register at h
  split at h
  · cases h
    rfl
  · cases h

theorem register_of_taken {type : RuleType} (h : type.id ∈ catalog.types.keys) :
    catalog.register type = (.error (.duplicateRuleType type.id), catalog) := by
  rw [register, Directory.add?_eq_none_iff.mpr h]

theorem register_eq_error_iff {type : RuleType} {error : RegistrationError} :
    (catalog.register type).1 = .error error ↔
      type.id ∈ catalog.types.keys ∧ error = .duplicateRuleType type.id := by
  constructor
  · intro h
    unfold register at h
    split at h
    · cases h
    · rename_i hnone
      exact ⟨Directory.add?_eq_none_iff.mp hnone, (Except.error.inj h).symm⟩
  · rintro ⟨htaken, rfl⟩
    rw [register_of_taken htaken]

theorem items_of_registerGroup {group : Group} (h : catalog.registerGroup group = (.ok (), grown)) :
    grown.types = catalog.types ∧ grown.groups.items = catalog.groups.items ++ [group] := by
  unfold registerGroup at h
  split at h
  · rename_i groups hadd
    cases h
    exact ⟨rfl, Roster.items_of_add? hadd⟩
  · cases h

theorem registerGroup_of_taken {group : Group} (h : group.name ∈ catalog.groups.keys) :
    catalog.registerGroup group = (.error (.duplicateGroup group.name), catalog) := by
  rw [registerGroup, Roster.add?_eq_none_iff.mpr h]

theorem registerGroup_eq_error_iff {group : Group} {error : RegistrationError} :
    (catalog.registerGroup group).1 = .error error ↔
      group.name ∈ catalog.groups.keys ∧ error = .duplicateGroup group.name := by
  constructor
  · intro h
    unfold registerGroup at h
    split at h
    · cases h
    · rename_i hnone
      exact ⟨Roster.add?_eq_none_iff.mp hnone, (Except.error.inj h).symm⟩
  · rintro ⟨htaken, rfl⟩
    rw [registerGroup_of_taken htaken]

theorem items_of_registerAll {types : List RuleType} (h : catalog.registerAll types = .ok grown) :
    grown.types.items = catalog.types.items ++ types := by
  induction types generalizing catalog with
  | nil =>
    cases h
    exact (List.append_nil _).symm
  | cons type rest ih =>
    unfold registerAll at h
    split at h
    · rename_i next hnext
      rw [ih h, items_of_register hnext, List.append_assoc, List.singleton_append]
    · cases h

/-- Types whose ids are all different, from each other and from those there are, are registered. -/
theorem exists_registerAll {types : List RuleType}
    (h : ((catalog.types.items ++ types).map RuleType.id).Nodup) :
    ∃ grown, catalog.registerAll types = .ok grown := by
  induction types generalizing catalog with
  | nil => exact ⟨catalog, rfl⟩
  | cons type rest ih =>
    rw [registerAll]
    cases hregister : catalog.register type with | mk result next =>
    cases result with
    | ok =>
      apply ih
      rwa [items_of_register hregister, List.append_assoc, List.singleton_append]
    | error error =>
      obtain ⟨htaken, -⟩ := register_eq_error_iff.mp (congrArg Prod.fst hregister)
      rw [List.map_append, List.nodup_append] at h
      exact absurd rfl (h.2.2 _ htaken _ List.mem_cons_self)

theorem registerAll_append {types rest : List RuleType}
    (h : catalog.registerAll types = .ok grown) :
    catalog.registerAll (types ++ rest) = grown.registerAll rest := by
  induction types generalizing catalog with
  | nil =>
    cases h
    rfl
  | cons type types ih =>
    rw [registerAll] at h
    rw [List.cons_append, registerAll]
    cases hregister : catalog.register type with | mk result next =>
    cases result with
    | ok =>
      rw [hregister] at h
      exact ih h
    | error error =>
      rw [hregister] at h
      cases h

/-- The first type whose id is taken is the error, whatever comes after it. -/
theorem registerAll_of_taken {before after : List RuleType} {type : RuleType}
    (hbefore : ((catalog.types.items ++ before).map RuleType.id).Nodup)
    (htaken : type.id ∈ (catalog.types.items ++ before).map RuleType.id) :
    catalog.registerAll (before ++ type :: after) = .error (.duplicateRuleType type.id) := by
  obtain ⟨next, hnext⟩ := exists_registerAll hbefore
  rw [← items_of_registerAll hnext] at htaken
  rw [registerAll_append hnext, registerAll, register_of_taken htaken]

theorem lookup_eq_some_iff {id : String} {type : RuleType} :
    catalog.lookup id = some type ↔ type ∈ catalog.types.items ∧ type.id = id :=
  Directory.find?_eq_some_iff

theorem lookup_eq_none_iff {id : String} :
    catalog.lookup id = none ↔ ∀ type ∈ catalog.types.items, type.id ≠ id := by
  rw [Option.eq_none_iff_forall_ne_some]
  exact ⟨fun h type htype hid => h type (lookup_eq_some_iff.mpr ⟨htype, hid⟩),
    fun h type hfound => (fun hmem => h type hmem.1 hmem.2) (lookup_eq_some_iff.mp hfound)⟩

theorem taxonomyTypes_eq_mapIdx (first : Nat) (taxonomies : List String) :
    taxonomyTypes first taxonomies =
      taxonomies.mapIdx fun place taxonomy => taxonomyType taxonomy (first + place) := by
  induction taxonomies generalizing first with
  | nil => rfl
  | cons taxonomy rest ih =>
    rw [taxonomyTypes, ih, List.mapIdx_cons]
    simp only [Nat.add_zero, Nat.add_assoc, Nat.add_comm 1]

theorem mem_taxonomyTypes_iff {taxonomies : List String} {first : Nat} {type : RuleType} :
    type ∈ taxonomyTypes first taxonomies ↔
      ∃ place taxonomy, taxonomies[place]? = some taxonomy ∧
        type = taxonomyType taxonomy (first + place) := by
  induction taxonomies generalizing first with
  | nil => simp [taxonomyTypes]
  | cons head rest ih =>
    rw [taxonomyTypes, List.mem_cons, ih]
    constructor
    · intro h
      obtain rfl | ⟨place, taxonomy, hget, rfl⟩ := h
      · exact ⟨0, head, rfl, rfl⟩
      · exact ⟨place + 1, taxonomy, hget, by rw [Nat.add_right_comm, Nat.add_assoc]⟩
    · intro h
      obtain ⟨place, taxonomy, hget, rfl⟩ := h
      cases place with
      | zero =>
        cases hget
        exact .inl rfl
      | succ place => exact .inr ⟨place, taxonomy, hget, by rw [Nat.add_right_comm, Nat.add_assoc]⟩

end Catalog

theorem EvaluatorTable.get?_of_mem {table : EvaluatorTable} {entry : Evaluator.Entry}
    (h : entry ∈ table.entries.items) : table.get? entry.id = some entry.evaluator := by
  rw [get?, Roster.find?_eq_some_iff.mpr ⟨h, rfl⟩]
  rfl

namespace Engine

variable {config : Config} {engine : Engine}

theorem evaluateRule_of_lookup {rule : Rule} {type : RuleType} {evaluator : Evaluator}
    (hlookup : engine.catalog.lookup rule.ruleType = some type)
    (hget : engine.evaluators.get? type.id = some evaluator) (snapshot : Snapshot) :
    engine.evaluateRule snapshot rule =
      if !type.accepts rule.operator? then .illegalOperator
      else if evaluator rule snapshot then .matched
      else .notMatched := by
  simp only [evaluateRule, hlookup, hget]

theorem types_of_build (h : build config = .ok engine) :
    engine.catalog.types.items =
      Catalog.builtinTypes ++
        Catalog.taxonomyTypes Catalog.firstTaxonomyPriority config.taxonomies ++
          config.ruleTypes := by
  unfold build at h
  split at h
  · cases h
  rename_i hbuiltin
  split at h
  · cases h
  rename_i hconfigured
  split at h
  · cases h
  split at h
  · cases h
  cases h
  rw [Catalog.items_of_registerAll hconfigured, Catalog.items_of_registerAll hbuiltin]
  rfl

theorem lookup_of_builtin (h : build config = .ok engine) {type : RuleType}
    (htype : type ∈ Catalog.builtinTypes) : engine.catalog.lookup type.id = some type := by
  refine Catalog.lookup_eq_some_iff.mpr ⟨?_, rfl⟩
  rw [types_of_build h]
  exact List.mem_append_left _ (List.mem_append_left _ htype)

/-- Every taxonomy has a rule type of its own. -/
theorem lookup_of_taxonomy (h : build config = .ok engine) {taxonomy : String}
    (htaxonomy : taxonomy ∈ config.taxonomies) :
    ∃ priority, engine.catalog.lookup (Catalog.taxonomyTypeId taxonomy) =
      some (Catalog.taxonomyType taxonomy priority) := by
  obtain ⟨place, hplace⟩ := List.getElem?_of_mem htaxonomy
  refine ⟨Catalog.firstTaxonomyPriority + place, Catalog.lookup_eq_some_iff.mpr ⟨?_, rfl⟩⟩
  rw [types_of_build h]
  refine List.mem_append_left _ (List.mem_append_right _ ?_)
  exact Catalog.mem_taxonomyTypes_iff.mpr ⟨place, taxonomy, hplace, rfl⟩

theorem evaluator_of_dimension (h : build config = .ok engine) {type : RuleType}
    {dimension : Dimension} (htype : type ∈ engine.catalog.types.items)
    (hdimension : type.dimension = some dimension) :
    engine.evaluators.get? type.id = some (Evaluator.cartItems dimension) := by
  have hmem : ⟨type.id, .cartItems dimension⟩ ∈ engine.evaluators.entries.items := by
    rw [evaluators_of_build h]
    refine List.mem_append_left _ (List.mem_append_right _ ?_)
    exact List.mem_filterMap.mpr
      ⟨type, htype, EvaluatorTable.dimensionEntry?_of_dimension hdimension⟩
  exact EvaluatorTable.get?_of_mem hmem

theorem evaluator_of_builtin (h : build config = .ok engine) {entry : Evaluator.Entry}
    (hentry : entry ∈ EvaluatorTable.builtinEntries) :
    engine.evaluators.get? entry.id = some entry.evaluator := by
  apply EvaluatorTable.get?_of_mem
  rw [evaluators_of_build h]
  exact List.mem_append_left _ (List.mem_append_left _ hentry)

end Engine

end ShippingRules
