import ShippingRules.Proofs.Catalog

/-!
Which configurations an engine is built from. The taxonomies, rule types and evaluators of a
configuration are registered one after another, and the first that does not fit in with those before
it is the error. A configuration in which all fit in gives an engine, with these types and with
evaluators for the ids told here.
-/
namespace ShippingRules

/-- A list is as it should be, or there is a first item that is bad after those before it. -/
theorem sound_or_first {α : Type} (Sound : List α → Prop) (Bad : List α → α → Prop)
    (hsnoc : ∀ before item, Sound before → ¬Bad before item → Sound (before ++ [item]))
    (before rest : List α) (hsound : Sound before) :
    Sound (before ++ rest) ∨ ∃ early item late, before ++ rest = early ++ item :: late ∧
      Sound early ∧ Bad early item := by
  induction rest generalizing before with
  | nil => exact .inl (by rwa [List.append_nil])
  | cons item rest ih =>
    by_cases hbad : Bad before item
    · exact .inr ⟨before, item, rest, rfl, hsound, hbad⟩
    · have hnext := ih (before ++ [item]) (hsnoc before item hsound hbad)
      rwa [List.append_assoc, List.singleton_append] at hnext

theorem nodup_map_concat {α : Type} {f : α → String} {items : List α} {item : α}
    (hitems : (items.map f).Nodup) (hitem : ∀ earlier ∈ items, f earlier ≠ f item) :
    ((items ++ [item]).map f).Nodup := by
  rw [List.map_append, List.nodup_append]
  refine ⟨hitems, List.pairwise_singleton _ _, ?_⟩
  intro id hid other hother
  obtain ⟨earlier, hearlier, rfl⟩ := List.mem_map.mp hid
  obtain rfl : other = f item := List.mem_singleton.mp hother
  exact hitem earlier hearlier

namespace Engine.Config

def builtinIds : List String := [
  "cart:subtotal", "cart:total_quantity", "cart:total_weight", "cart:coupons",
  "cart_products:products", "date:time", "date:date", "date:weekly_days", "billing:city",
  "billing:zipcode", "billing:state", "billing:country", "shipping:city", "shipping:zipcode",
  "shipping:state", "shipping:country", "user:users", "user:roles", "user:logged_in",
  "order_history:first_purchase"]

/-- The ids of the built-in rule types with an evaluator of their own. -/
def servedIds : List String := [
  "cart:subtotal", "cart:total_quantity", "cart:total_weight", "cart:coupons", "date:time",
  "date:date", "date:weekly_days", "user:users", "user:logged_in", "billing:city", "shipping:city",
  "billing:country", "shipping:country"]

/-- The rule types asked for, in the order of their registration. -/
def registered (config : Config) : List RuleType :=
  Catalog.builtinTypes ++
    config.taxonomies.mapIdx (fun place taxonomy =>
      { id := "cart_products:" ++ taxonomy
        group := "cart_products"
        priority := 21 + place
        operators := [.anyInList, .allInList, .notInList]
        operatorField := "operator"
        dimension := some (.ofTaxonomy taxonomy) }) ++
      config.ruleTypes

/-- The id has an evaluator of its own, inspects a cart dimension, or has one of these entries. -/
def HasEvaluator (types : List RuleType) (entries : List Evaluator.Entry) (id : String) : Prop :=
  id ∈ servedIds ∨ (∃ type ∈ types, type.id = id ∧ type.dimension ≠ none) ∨
    ∃ entry ∈ entries, entry.id = id

def TaxonomyTaken (before : List String) (taxonomy : String) : Prop :=
  taxonomy = "products" ∨ taxonomy ∈ before

def TypeTaken (taxonomies : List String) (before : List RuleType) (type : RuleType) : Prop :=
  type.id ∈ builtinIds ∨ (∃ taxonomy ∈ taxonomies, type.id = "cart_products:" ++ taxonomy) ∨
    ∃ earlier ∈ before, earlier.id = type.id

/-- The entry is for no rule type there is, or for one that has an evaluator. -/
def Misfit (types : List RuleType) (before : List Evaluator.Entry)
    (entry : Evaluator.Entry) : Prop :=
  (∀ type ∈ types, type.id ≠ entry.id) ∨ HasEvaluator types before entry.id

structure SoundTaxonomies (taxonomies : List String) : Prop where
  distinct : taxonomies.Nodup
  free : "products" ∉ taxonomies

structure SoundTypes (taxonomies : List String) (types : List RuleType) : Prop where
  distinct : (types.map RuleType.id).Nodup
  free : ∀ type ∈ types, type.id ∉ builtinIds ∧
    ∀ taxonomy ∈ taxonomies, type.id ≠ "cart_products:" ++ taxonomy

structure SoundEntries (types : List RuleType) (entries : List Evaluator.Entry) : Prop where
  distinct : (entries.map Evaluator.Entry.id).Nodup
  free : ∀ entry ∈ entries, entry.id ∉ servedIds ∧
    ∃ type ∈ types, type.id = entry.id ∧ type.dimension = none

structure Consistent (config : Config) : Prop where
  taxonomies : SoundTaxonomies config.taxonomies
  types : SoundTypes config.taxonomies config.ruleTypes
  entries : SoundEntries config.registered config.evaluators

/-- The first item that does not fit in, and its error. -/
inductive Refused (config : Config) : RegistrationError → Prop
  | taxonomy {before after : List String} {taxonomy : String}
      (split : config.taxonomies = before ++ taxonomy :: after) (sound : SoundTaxonomies before)
      (taken : TaxonomyTaken before taxonomy) :
      Refused config (.duplicateRuleType ("cart_products:" ++ taxonomy))
  | ruleType {before after : List RuleType} {type : RuleType}
      (taxonomies : SoundTaxonomies config.taxonomies)
      (split : config.ruleTypes = before ++ type :: after)
      (sound : SoundTypes config.taxonomies before)
      (taken : TypeTaken config.taxonomies before type) :
      Refused config (.duplicateRuleType type.id)
  | unknown {before after : List Evaluator.Entry} {entry : Evaluator.Entry}
      (taxonomies : SoundTaxonomies config.taxonomies)
      (types : SoundTypes config.taxonomies config.ruleTypes)
      (split : config.evaluators = before ++ entry :: after)
      (sound : SoundEntries config.registered before)
      (unknown : ∀ type ∈ config.registered, type.id ≠ entry.id) :
      Refused config (.unknownRuleType entry.id)
  | served {before after : List Evaluator.Entry} {entry : Evaluator.Entry}
      (taxonomies : SoundTaxonomies config.taxonomies)
      (types : SoundTypes config.taxonomies config.ruleTypes)
      (split : config.evaluators = before ++ entry :: after)
      (sound : SoundEntries config.registered before)
      (known : ∃ type ∈ config.registered, type.id = entry.id)
      (taken : HasEvaluator config.registered before entry.id) :
      Refused config (.duplicateEvaluator entry.id)

theorem map_id_builtinTypes : Catalog.builtinTypes.map RuleType.id = builtinIds := rfl

theorem map_id_builtinEntries :
    EvaluatorTable.builtinEntries.map Evaluator.Entry.id = servedIds := rfl

theorem registered_eq (config : Config) :
    config.registered = Catalog.builtinTypes ++
      Catalog.taxonomyTypes Catalog.firstTaxonomyPriority config.taxonomies ++
        config.ruleTypes := by
  rw [registered, Catalog.taxonomyTypes_eq_mapIdx]
  rfl

section Taxonomies

variable {taxonomies : List String}

theorem taxonomyTypeId_injective {a b : String}
    (h : Catalog.taxonomyTypeId a = Catalog.taxonomyTypeId b) : a = b := by
  have hchars := congrArg String.toList h
  rw [Catalog.taxonomyTypeId, Catalog.taxonomyTypeId, String.toList_append, String.toList_append]
    at hchars
  exact String.toList_inj.mp (List.append_cancel_left hchars)

/-- The only built-in rule type with the id of a taxonomy is the reserved one. -/
theorem taxonomyTypeId_mem_builtinIds_iff {taxonomy : String} :
    Catalog.taxonomyTypeId taxonomy ∈ builtinIds ↔ taxonomy = "products" := by
  constructor
  · intro hmem
    have hstart : (Catalog.taxonomyTypeId taxonomy).toList.take 14 = "cart_products:".toList := by
      rw [Catalog.taxonomyTypeId, String.toList_append]
      exact List.take_left' rfl
    have honly : ∀ id ∈ builtinIds, id.toList.take 14 = "cart_products:".toList →
        id = Catalog.taxonomyTypeId "products" := by decide
    exact taxonomyTypeId_injective (honly _ hmem hstart)
  · rintro rfl
    decide

theorem map_id_taxonomyTypes (first : Nat) (taxonomies : List String) :
    (Catalog.taxonomyTypes first taxonomies).map RuleType.id =
      taxonomies.map Catalog.taxonomyTypeId := by
  induction taxonomies generalizing first with
  | nil => rfl
  | cons taxonomy rest ih =>
    rw [Catalog.taxonomyTypes, List.map_cons, List.map_cons, ih]
    rfl

theorem taxonomyTypes_append (first : Nat) (before after : List String) :
    Catalog.taxonomyTypes first (before ++ after) =
      Catalog.taxonomyTypes first before ++
        Catalog.taxonomyTypes (first + before.length) after := by
  induction before generalizing first with
  | nil => rfl
  | cons taxonomy rest ih =>
    rw [List.cons_append, Catalog.taxonomyTypes, Catalog.taxonomyTypes, ih, List.cons_append,
      List.length_cons, Nat.add_assoc, Nat.add_comm 1]

theorem SoundTaxonomies.concat {taxonomy : String} (h : SoundTaxonomies taxonomies)
    (hfree : ¬TaxonomyTaken taxonomies taxonomy) : SoundTaxonomies (taxonomies ++ [taxonomy]) := by
  rw [TaxonomyTaken, not_or] at hfree
  constructor
  · rw [List.nodup_append]
    refine ⟨h.distinct, List.pairwise_singleton _ _, ?_⟩
    rintro earlier hearlier other hother rfl
    exact hfree.2 (List.mem_singleton.mp hother ▸ hearlier)
  · rw [List.mem_append, List.mem_singleton, not_or]
    exact ⟨h.free, fun heq => hfree.1 heq.symm⟩

/-- Sound taxonomies make rule types that are new and all different. -/
theorem SoundTaxonomies.nodup (h : SoundTaxonomies taxonomies) :
    ((Catalog.base.types.items ++
      Catalog.taxonomyTypes Catalog.firstTaxonomyPriority taxonomies).map RuleType.id).Nodup := by
  rw [List.map_append, map_id_taxonomyTypes, List.nodup_append]
  refine ⟨Catalog.builtinTypes_distinct, ?_, ?_⟩
  · exact List.Pairwise.map _ (fun a b hne heq => hne (taxonomyTypeId_injective heq)) h.distinct
  · rintro id hid other hother rfl
    obtain ⟨taxonomy, htaxonomy, rfl⟩ := List.mem_map.mp hother
    obtain rfl := taxonomyTypeId_mem_builtinIds_iff.mp hid
    exact h.free htaxonomy

theorem SoundTaxonomies.exists_builtin (h : SoundTaxonomies taxonomies) :
    ∃ builtin, Catalog.builtin taxonomies = .ok builtin ∧
      builtin.types.items = Catalog.builtinTypes ++
        Catalog.taxonomyTypes Catalog.firstTaxonomyPriority taxonomies := by
  obtain ⟨builtin, hbuiltin⟩ := Catalog.exists_registerAll h.nodup
  exact ⟨builtin, hbuiltin, Catalog.items_of_registerAll hbuiltin⟩

theorem builtin_of_taken {before after : List String} {taxonomy : String}
    (hsound : SoundTaxonomies before) (htaken : TaxonomyTaken before taxonomy) :
    Catalog.builtin (before ++ taxonomy :: after) =
      .error (.duplicateRuleType ("cart_products:" ++ taxonomy)) := by
  rw [Catalog.builtin, taxonomyTypes_append, Catalog.taxonomyTypes]
  apply Catalog.registerAll_of_taken hsound.nodup
  rw [List.map_append, map_id_taxonomyTypes, List.mem_append]
  rcases htaken with hproducts | hbefore
  · exact .inl (taxonomyTypeId_mem_builtinIds_iff.mpr hproducts)
  · exact .inr (List.mem_map_of_mem hbefore)

end Taxonomies

section Types

variable {config : Config} {types : List RuleType} {builtin catalog : Catalog}

theorem SoundTypes.concat {taxonomies : List String} {type : RuleType}
    (h : SoundTypes taxonomies types) (hfree : ¬TypeTaken taxonomies types type) :
    SoundTypes taxonomies (types ++ [type]) := by
  obtain ⟨hbuiltin, hfree⟩ := not_or.mp hfree
  obtain ⟨htaxonomy, hearlier⟩ := not_or.mp hfree
  constructor
  · exact nodup_map_concat h.distinct fun earlier hmem heq => hearlier ⟨earlier, hmem, heq⟩
  · intro other hother
    rcases List.mem_append.mp hother with hmem | hlast
    · exact h.free other hmem
    · obtain rfl := List.mem_singleton.mp hlast
      exact ⟨hbuiltin, fun taxonomy hmem heq => htaxonomy ⟨taxonomy, hmem, heq⟩⟩

theorem mem_ids_iff (hitems : builtin.types.items = Catalog.builtinTypes ++
      Catalog.taxonomyTypes Catalog.firstTaxonomyPriority config.taxonomies) {id : String} :
    id ∈ builtin.types.items.map RuleType.id ↔
      id ∈ builtinIds ∨ ∃ taxonomy ∈ config.taxonomies, id = "cart_products:" ++ taxonomy := by
  rw [hitems, List.map_append, map_id_taxonomyTypes, map_id_builtinTypes, List.mem_append,
    List.mem_map]
  exact or_congr_right
    ⟨fun ⟨taxonomy, hmem, heq⟩ => ⟨taxonomy, hmem, heq.symm⟩,
      fun ⟨taxonomy, hmem, heq⟩ => ⟨taxonomy, hmem, heq.symm⟩⟩

/-- Sound rule types are new beside the built-in ones and those of the taxonomies. -/
theorem SoundTypes.nodup (h : SoundTypes config.taxonomies types)
    (hitems : builtin.types.items = Catalog.builtinTypes ++
      Catalog.taxonomyTypes Catalog.firstTaxonomyPriority config.taxonomies) :
    ((builtin.types.items ++ types).map RuleType.id).Nodup := by
  rw [List.map_append, List.nodup_append]
  refine ⟨builtin.types.distinct, h.distinct, ?_⟩
  rintro id hid other hother rfl
  obtain ⟨type, htype, rfl⟩ := List.mem_map.mp hother
  obtain ⟨hbuiltin, htaxonomies⟩ := h.free type htype
  rcases (mem_ids_iff hitems).mp hid with hmem | ⟨taxonomy, hmem, heq⟩
  · exact hbuiltin hmem
  · exact htaxonomies taxonomy hmem heq

/-- The catalog of a configuration whose taxonomies and rule types are sound. -/
theorem exists_catalog (htaxonomies : SoundTaxonomies config.taxonomies)
    (htypes : SoundTypes config.taxonomies config.ruleTypes) :
    ∃ builtin catalog, Catalog.builtin config.taxonomies = .ok builtin ∧
      builtin.registerAll config.ruleTypes = .ok catalog ∧
        catalog.types.items = config.registered := by
  obtain ⟨builtin, hbuiltin, hitems⟩ := htaxonomies.exists_builtin
  obtain ⟨catalog, hcatalog⟩ := Catalog.exists_registerAll (htypes.nodup hitems)
  refine ⟨builtin, catalog, hbuiltin, hcatalog, ?_⟩
  rw [Catalog.items_of_registerAll hcatalog, hitems, registered_eq]

end Types

end Engine.Config

namespace EvaluatorTable

variable {catalog : Catalog} {table : EvaluatorTable}

theorem map_id_dimensionEntries (types : List RuleType) :
    (types.filterMap dimensionEntry?).map Evaluator.Entry.id =
      (types.filter fun type => type.dimension.isSome).map RuleType.id := by
  induction types with
  | nil => rfl
  | cons type rest ih =>
    cases hdimension : type.dimension with
    | none => simp [ih, dimensionEntry?, hdimension]
    | some dimension => simp [ih, dimensionEntry?, hdimension]

theorem mem_map_id_dimensionEntries_iff {types : List RuleType} {id : String} :
    id ∈ (types.filterMap dimensionEntry?).map Evaluator.Entry.id ↔
      ∃ type ∈ types, type.id = id ∧ type.dimension ≠ none := by
  rw [map_id_dimensionEntries, List.mem_map]
  simp only [List.mem_filter, Option.isSome_iff_ne_none]
  exact exists_congr fun type => ⟨fun ⟨⟨hmem, hdimension⟩, hid⟩ => ⟨hmem, hid, hdimension⟩,
    fun ⟨hmem, hid, hdimension⟩ => ⟨⟨hmem, hdimension⟩, hid⟩⟩

/-- The built-in evaluators are registered with those of rule types of the catalog, if it has the
types they serve, and none of these is given a second evaluator for its cart dimension. -/
theorem exists_registerAllFor_dimensions {types : List RuleType}
    (htypes : types.Sublist catalog.types.items)
    (hknown : ∀ entry ∈ builtinEntries, ∃ type, catalog.lookup entry.id = some type)
    (hplain : ∀ type ∈ types, type.id ∈ builtinEntries.map Evaluator.Entry.id →
      type.dimension = none) :
    ∃ table, registerAllFor catalog empty (builtinEntries ++ types.filterMap dimensionEntry?) =
      .ok table := by
  apply exists_registerAllFor
  · intro entry hentry
    rcases List.mem_append.mp hentry with hbuiltin | hlisted
    · exact hknown entry hbuiltin
    · obtain ⟨type, htype, hmade⟩ := List.mem_filterMap.mp hlisted
      obtain ⟨dimension, -, rfl⟩ := Option.map_eq_some_iff.mp hmade
      exact ⟨type, Catalog.lookup_eq_some_iff.mpr ⟨htypes.subset htype, rfl⟩⟩
  · have hbuiltin : (builtinEntries.map Evaluator.Entry.id).Nodup := by decide
    have hsublist : ((types.filter fun type => type.dimension.isSome).map RuleType.id).Sublist
        catalog.types.keys := (List.filter_sublist.trans htypes).map _
    have hdimensions : ((types.filterMap dimensionEntry?).map Evaluator.Entry.id).Nodup := by
      rw [map_id_dimensionEntries]
      exact catalog.types.distinct.sublist hsublist
    rw [show empty.entries.items = [] from rfl, List.nil_append, List.map_append,
      List.nodup_append]
    refine ⟨hbuiltin, hdimensions, ?_⟩
    rintro id hid other hother rfl
    obtain ⟨type, htype, rfl, hdimension⟩ := mem_map_id_dimensionEntries_iff.mp hother
    exact hdimension (hplain type htype hid)

end EvaluatorTable

namespace Engine.Config

section Entries

variable {config : Config} {entries : List Evaluator.Entry} {catalog : Catalog}
  {table : EvaluatorTable}

theorem SoundEntries.concat {types : List RuleType} {entry : Evaluator.Entry}
    (h : SoundEntries types entries) (hfree : ¬Misfit types entries entry) :
    SoundEntries types (entries ++ [entry]) := by
  obtain ⟨hknown, hfree⟩ := not_or.mp hfree
  obtain ⟨hserved, hfree⟩ := not_or.mp hfree
  obtain ⟨hdimension, hearlier⟩ := not_or.mp hfree
  constructor
  · exact nodup_map_concat h.distinct fun earlier hmem heq => hearlier ⟨earlier, hmem, heq⟩
  · intro other hother
    rcases List.mem_append.mp hother with hmem | hlast
    · exact h.free other hmem
    · obtain rfl := List.mem_singleton.mp hlast
      obtain ⟨type, hwitness⟩ := Classical.not_forall.mp hknown
      obtain ⟨htype, hid⟩ := Classical.not_imp.mp hwitness
      have hid : type.id = other.id := Decidable.not_not.mp hid
      refine ⟨hserved, type, htype, hid, Decidable.not_not.mp fun hsome => ?_⟩
      exact hdimension ⟨type, htype, hid, hsome⟩

theorem lookup_eq_some_of_registered (hitems : catalog.types.items = config.registered)
    {type : RuleType} (htype : type ∈ config.registered) :
    catalog.lookup type.id = some type :=
  Catalog.lookup_eq_some_iff.mpr ⟨hitems ▸ htype, rfl⟩

/-- The built-in evaluators of a configuration, and those of its rule types with a dimension. -/
theorem exists_table (hitems : catalog.types.items = config.registered) :
    ∃ table, EvaluatorTable.builtin catalog = .ok table ∧
      table.entries.items = EvaluatorTable.builtinEntries ++
        config.registered.filterMap EvaluatorTable.dimensionEntry? := by
  have hbuiltin : ∀ id ∈ EvaluatorTable.builtinEntries.map Evaluator.Entry.id,
      ∃ type ∈ Catalog.builtinTypes, type.id = id ∧ type.dimension = none := by decide
  have hserved : ∀ id ∈ EvaluatorTable.builtinEntries.map Evaluator.Entry.id,
      ∃ type, catalog.lookup id = some type ∧ type.dimension = none := by
    intro id hid
    obtain ⟨type, htype, rfl, hdimension⟩ := hbuiltin id hid
    have hmem : type ∈ config.registered :=
      List.mem_append_left _ (List.mem_append_left _ htype)
    exact ⟨type, lookup_eq_some_of_registered hitems hmem, hdimension⟩
  have hknown : ∀ entry ∈ EvaluatorTable.builtinEntries,
      ∃ type, catalog.lookup entry.id = some type := by
    intro entry hentry
    obtain ⟨type, hlookup, -⟩ := hserved entry.id (List.mem_map_of_mem hentry)
    exact ⟨type, hlookup⟩
  have hplain : ∀ type ∈ catalog.types.items,
      type.id ∈ EvaluatorTable.builtinEntries.map Evaluator.Entry.id → type.dimension = none := by
    intro type htype hid
    -- The type that is served by id is the only one of its id.
    obtain ⟨served, hlookup, hnone⟩ := hserved type.id hid
    rw [Catalog.lookup_eq_some_iff.mpr ⟨htype, rfl⟩] at hlookup
    cases hlookup
    exact hnone
  obtain ⟨table, htable⟩ :=
    EvaluatorTable.exists_registerAllFor_dimensions (List.Sublist.refl _) hknown hplain
  refine ⟨table, htable, ?_⟩
  rw [EvaluatorTable.items_of_registerAllFor htable, hitems]
  rfl

theorem mem_keys_iff {types : List RuleType} (hentries : table.entries.items =
      EvaluatorTable.builtinEntries ++ types.filterMap EvaluatorTable.dimensionEntry? ++ entries)
    {id : String} : id ∈ table.entries.keys ↔ HasEvaluator types entries id := by
  rw [Roster.keys, hentries, List.map_append, List.map_append, map_id_builtinEntries,
    List.mem_append, List.mem_append, EvaluatorTable.mem_map_id_dimensionEntries_iff, List.mem_map,
    or_assoc]
  rfl

theorem SoundEntries.exists_registerAllFor (h : SoundEntries config.registered entries)
    (hitems : catalog.types.items = config.registered)
    (hentries : table.entries.items = EvaluatorTable.builtinEntries ++
      config.registered.filterMap EvaluatorTable.dimensionEntry?) :
    ∃ grown, EvaluatorTable.registerAllFor catalog table entries = .ok grown ∧
      grown.entries.items = EvaluatorTable.builtinEntries ++
        config.registered.filterMap EvaluatorTable.dimensionEntry? ++ entries := by
  have hknown : ∀ entry ∈ entries, ∃ type, catalog.lookup entry.id = some type := by
    intro entry hentry
    obtain ⟨-, type, htype, hid, -⟩ := h.free entry hentry
    exact ⟨type, hid ▸ lookup_eq_some_of_registered hitems htype⟩
  have hids : ((table.entries.items ++ entries).map Evaluator.Entry.id).Nodup := by
    rw [List.map_append, List.nodup_append]
    refine ⟨table.entries.distinct, h.distinct, ?_⟩
    rintro id hid other hother rfl
    obtain ⟨entry, hentry, rfl⟩ := List.mem_map.mp hother
    obtain ⟨hserved, type, htype, hsame, hnone⟩ := h.free entry hentry
    have hentries := hentries.trans (List.append_nil _).symm
    obtain hmem | ⟨found, hfound, hid, hsome⟩ | ⟨earlier, hearlier, -⟩ :=
      (mem_keys_iff hentries).mp hid
    · exact hserved hmem
    · -- The type of the entry is the only one of its id, and it inspects no dimension.
      have hlookup := lookup_eq_some_of_registered hitems hfound
      rw [hid, ← hsame, lookup_eq_some_of_registered hitems htype] at hlookup
      cases hlookup
      exact hsome hnone
    · cases hearlier
  obtain ⟨grown, hgrown⟩ := EvaluatorTable.exists_registerAllFor hknown hids
  exact ⟨grown, hgrown, by rw [EvaluatorTable.items_of_registerAllFor hgrown, hentries]⟩

theorem registerFor_of_unknown {entry : Evaluator.Entry}
    (hitems : catalog.types.items = config.registered)
    (hunknown : ∀ type ∈ config.registered, type.id ≠ entry.id) :
    (EvaluatorTable.registerFor catalog table entry).1 = .error (.unknownRuleType entry.id) := by
  have hlookup : catalog.lookup entry.id = none :=
    Catalog.lookup_eq_none_iff.mpr fun type htype => hunknown type (hitems ▸ htype)
  rw [EvaluatorTable.registerFor, hlookup]

theorem registerFor_of_served {entry : Evaluator.Entry}
    (hitems : catalog.types.items = config.registered)
    (hentries : table.entries.items = EvaluatorTable.builtinEntries ++
      config.registered.filterMap EvaluatorTable.dimensionEntry? ++ entries)
    (hknown : ∃ type ∈ config.registered, type.id = entry.id)
    (htaken : HasEvaluator config.registered entries entry.id) :
    (EvaluatorTable.registerFor catalog table entry).1 =
      .error (.duplicateEvaluator entry.id) := by
  obtain ⟨type, htype, hid⟩ := hknown
  rw [EvaluatorTable.registerFor_of_lookup (hid ▸ lookup_eq_some_of_registered hitems htype)]
  exact EvaluatorTable.register_eq_error_iff.mpr ⟨(mem_keys_iff hentries).mpr htaken, rfl⟩

end Entries

variable {config : Config}

/-- A configuration is consistent, or one of its items is the first that does not fit in. -/
theorem consistent_or_refused (config : Config) :
    config.Consistent ∨ ∃ error, config.Refused error := by
  obtain htaxonomies | ⟨before, taxonomy, after, hsplit, hsound, htaken⟩ :=
    sound_or_first SoundTaxonomies TaxonomyTaken (fun _ _ => .concat) [] config.taxonomies
      ⟨.nil, nofun⟩
  · obtain htypes | ⟨before, type, after, hsplit, hsound, htaken⟩ :=
      sound_or_first (SoundTypes config.taxonomies) (TypeTaken config.taxonomies)
        (fun _ _ => .concat) [] config.ruleTypes ⟨.nil, nofun⟩
    · obtain hentries | ⟨before, entry, after, hsplit, hsound, hmisfit⟩ :=
        sound_or_first (SoundEntries config.registered) (Misfit config.registered)
          (fun _ _ => .concat) [] config.evaluators ⟨.nil, nofun⟩
      · exact .inl ⟨htaxonomies, htypes, hentries⟩
      · by_cases hknown : ∃ type ∈ config.registered, type.id = entry.id
        · have htaken : HasEvaluator config.registered before entry.id := by
            obtain ⟨type, htype, hid⟩ := hknown
            exact hmisfit.resolve_left fun hunknown => hunknown type htype hid
          exact .inr ⟨_, .served htaxonomies htypes hsplit hsound hknown htaken⟩
        · have hunknown : ∀ type ∈ config.registered, type.id ≠ entry.id :=
            fun type htype hid => hknown ⟨type, htype, hid⟩
          exact .inr ⟨_, .unknown htaxonomies htypes hsplit hsound hunknown⟩
    · exact .inr ⟨_, .ruleType htaxonomies hsplit hsound htaken⟩
  · exact .inr ⟨_, .taxonomy hsplit hsound htaken⟩

theorem build_of_consistent (h : config.Consistent) :
    ∃ engine, build config = .ok engine := by
  obtain ⟨builtin, catalog, hbuiltin, hcatalog, hitems⟩ := exists_catalog h.taxonomies h.types
  obtain ⟨table, htable, hentries⟩ := exists_table hitems
  obtain ⟨grown, hgrown, -⟩ := h.entries.exists_registerAllFor hitems hentries
  simp only [build, hbuiltin, hcatalog, htable, hgrown]
  exact ⟨_, rfl⟩

/-- If all that comes before an evaluator fits in, its refusal is the error. -/
theorem build_of_registerFor_error {before after : List Evaluator.Entry} {entry : Evaluator.Entry}
    {error : RegistrationError} (htaxonomies : SoundTaxonomies config.taxonomies)
    (htypes : SoundTypes config.taxonomies config.ruleTypes)
    (hsplit : config.evaluators = before ++ entry :: after)
    (hsound : SoundEntries config.registered before)
    (herror : ∀ (catalog : Catalog) (table : EvaluatorTable),
      catalog.types.items = config.registered →
        table.entries.items = EvaluatorTable.builtinEntries ++
          config.registered.filterMap EvaluatorTable.dimensionEntry? ++ before →
          (EvaluatorTable.registerFor catalog table entry).1 = .error error) :
    build config = .error error := by
  obtain ⟨builtin, catalog, hbuiltin, hcatalog, hitems⟩ := exists_catalog htaxonomies htypes
  obtain ⟨table, htable, hentries⟩ := exists_table hitems
  obtain ⟨grown, hgrown, hgrownEntries⟩ := hsound.exists_registerAllFor hitems hentries
  have hrefused : EvaluatorTable.registerAllFor catalog table config.evaluators = .error error := by
    rw [hsplit]
    exact EvaluatorTable.registerAllFor_of_error hgrown (herror catalog grown hitems hgrownEntries)
  simp only [build, hbuiltin, hcatalog, htable, hrefused]

theorem build_of_refused {error : RegistrationError} (h : config.Refused error) :
    build config = .error error := by
  cases h with
  | taxonomy split sound taken =>
    rw [build, split, builtin_of_taken sound taken]
  | @ruleType before after type taxonomies split sound taken =>
    obtain ⟨builtin, hbuiltin, hitems⟩ := taxonomies.exists_builtin
    have htaken : type.id ∈ (builtin.types.items ++ before).map RuleType.id := by
      rw [List.map_append, List.mem_append, mem_ids_iff hitems, List.mem_map]
      exact or_assoc.mpr taken
    have herror : builtin.registerAll (before ++ type :: after) =
        .error (.duplicateRuleType type.id) :=
      Catalog.registerAll_of_taken (sound.nodup hitems) htaken
    simp only [build, hbuiltin, split, herror]
  | unknown taxonomies types split sound unknown =>
    exact build_of_registerFor_error taxonomies types split sound
      fun _ _ hitems _ => registerFor_of_unknown hitems unknown
  | served taxonomies types split sound known taken =>
    exact build_of_registerFor_error taxonomies types split sound
      fun _ _ hitems hentries => registerFor_of_served hitems hentries known taken

end Engine.Config

namespace Engine

/-- An engine is built from just the consistent configurations, with the rule types and the
evaluators that they ask for; from any other the error is that of the first item that does not fit
in. -/
theorem build_outcome (config : Config) :
    ((∃ engine, build config = .ok engine) ↔ config.Consistent) ∧
      (∀ engine, build config = .ok engine →
        engine.catalog.types.items = config.registered ∧
          ∀ id, (∃ evaluator, engine.evaluators.get? id = some evaluator) ↔
            Config.HasEvaluator config.registered config.evaluators id) ∧
        ∀ error, build config = .error error ↔ config.Refused error := by
  refine ⟨⟨?_, Config.build_of_consistent⟩, ?_, fun error => ⟨?_, Config.build_of_refused⟩⟩
  · rintro ⟨engine, hengine⟩
    refine (Config.consistent_or_refused config).resolve_right ?_
    rintro ⟨error, hrefused⟩
    rw [Config.build_of_refused hrefused] at hengine
    cases hengine
  · intro engine hengine
    have hitems : engine.catalog.types.items = config.registered := by
      rw [types_of_build hengine, Config.registered_eq]
    refine ⟨hitems, fun id => ?_⟩
    have hentries := evaluators_of_build hengine
    rw [hitems] at hentries
    rw [← Config.mem_keys_iff hentries, ← Roster.contains_iff, Roster.contains,
      ← Option.isSome_iff_exists, EvaluatorTable.get?, Option.isSome_map]
  · intro herror
    obtain hconsistent | ⟨other, hrefused⟩ := Config.consistent_or_refused config
    · obtain ⟨engine, hengine⟩ := Config.build_of_consistent hconsistent
      rw [hengine] at herror
      cases herror
    · rw [Config.build_of_refused hrefused] at herror
      cases herror
      exact hrefused

end Engine

end ShippingRules
