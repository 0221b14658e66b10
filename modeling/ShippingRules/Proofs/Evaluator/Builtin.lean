import ShippingRules.Proofs.Configuration

/-!
Which catalogs have the built-in evaluators. Thirteen rule types are served by id and every type
with a cart dimension by that dimension, and no type may be served twice. So a catalog is suited
just when it has the thirteen and none of them has a dimension; otherwise the first of them that is
missing is the error, or the first type, in the order of registration, that would be served twice.
-/
namespace ShippingRules

theorem forall_or_first {α : Type} (P : α → Prop) (items : List α) :
    (∀ item ∈ items, P item) ∨ ∃ before item after, items = before ++ item :: after ∧
      (∀ earlier ∈ before, P earlier) ∧ ¬P item := by
  refine sound_or_first (fun items => ∀ item ∈ items, P item) (fun _ item => ¬P item) ?_ [] items
    nofun
  intro before item hbefore hitem other hother
  rcases List.mem_append.mp hother with hmem | hlast
  · exact hbefore other hmem
  · rw [List.mem_singleton.mp hlast]
    exact Classical.not_not.mp hitem

namespace EvaluatorTable

open Engine.Config (servedIds)

/-- The catalog has a rule type with this id. -/
def Known (catalog : Catalog) (id : String) : Prop := ∃ type ∈ catalog.types.items, type.id = id

/-- The type would be served by its id and by its cart dimension. -/
def ServedTwice (type : RuleType) : Prop := type.id ∈ servedIds ∧ type.dimension ≠ none

structure Suited (catalog : Catalog) : Prop where
  known : ∀ id ∈ servedIds, Known catalog id
  once : ∀ type ∈ catalog.types.items, ¬ServedTwice type

/-- Why a catalog is not suited, with the error. -/
inductive Unsuited (catalog : Catalog) : RegistrationError → Prop
  | missing {before after : List String} {id : String} (split : servedIds = before ++ id :: after)
      (known : ∀ earlier ∈ before, Known catalog earlier) (unknown : ¬Known catalog id) :
      Unsuited catalog (.unknownRuleType id)
  | twice {before after : List RuleType} {type : RuleType}
      (known : ∀ id ∈ servedIds, Known catalog id)
      (split : catalog.types.items = before ++ type :: after)
      (once : ∀ earlier ∈ before, ¬ServedTwice earlier) (served : ServedTwice type) :
      Unsuited catalog (.duplicateEvaluator type.id)

variable {catalog : Catalog} {table : EvaluatorTable}

theorem exists_lookup_iff {id : String} :
    (∃ type, catalog.lookup id = some type) ↔ Known catalog id :=
  exists_congr fun _ => Catalog.lookup_eq_some_iff

theorem suited_or_unsuited (catalog : Catalog) :
    Suited catalog ∨ ∃ error, Unsuited catalog error := by
  obtain hknown | ⟨before, id, after, hsplit, hbefore, hunknown⟩ :=
    forall_or_first (Known catalog) servedIds
  · obtain honce | ⟨before, type, after, hsplit, hbefore, htwice⟩ :=
      forall_or_first (fun type => ¬ServedTwice type) catalog.types.items
    · exact .inl ⟨hknown, honce⟩
    · exact .inr ⟨_, .twice hknown hsplit hbefore (Classical.not_not.mp htwice)⟩
  · exact .inr ⟨_, .missing hsplit hbefore hunknown⟩

section Outcome

/-- The evaluators by id, and those of types that are not served twice, are registered. -/
theorem exists_served (hknown : ∀ id ∈ servedIds, Known catalog id) {types : List RuleType}
    (htypes : types.Sublist catalog.types.items) (honce : ∀ type ∈ types, ¬ServedTwice type) :
    ∃ table, registerAllFor catalog empty (builtinEntries ++ types.filterMap dimensionEntry?) =
      .ok table := by
  apply exists_registerAllFor_dimensions htypes
  · intro entry hentry
    exact exists_lookup_iff.mpr (hknown entry.id (List.mem_map_of_mem hentry))
  · intro type htype hid
    exact Decidable.not_not.mp fun hdimension => honce type htype ⟨hid, hdimension⟩

theorem Suited.exists_builtin (h : Suited catalog) : ∃ table, builtin catalog = .ok table :=
  exists_served h.known (List.Sublist.refl _) h.once

theorem items_of_builtin (h : builtin catalog = .ok table) :
    table.entries.items =
      builtinEntries ++ catalog.types.items.filterMap dimensionEntry? := by
  rw [items_of_registerAllFor h]
  rfl

theorem builtin_of_missing {before after : List String} {id : String}
    (hsplit : servedIds = before ++ id :: after)
    (hknown : ∀ earlier ∈ before, Known catalog earlier) (hunknown : ¬Known catalog id) :
    builtin catalog = .error (.unknownRuleType id) := by
  rw [← Engine.Config.map_id_builtinEntries] at hsplit
  obtain ⟨front, rest, hentries, rfl, hrest⟩ := List.map_eq_append_iff.mp hsplit
  obtain ⟨entry, back, rfl, rfl, -⟩ := List.map_eq_cons_iff.mp hrest
  have hids : ((empty.entries.items ++ front).map Evaluator.Entry.id).Nodup := by
    have hbuiltin : (builtinEntries.map Evaluator.Entry.id).Nodup := by decide
    rw [hentries, List.map_append] at hbuiltin
    exact (List.nodup_append.mp hbuiltin).1
  have hfront : ∀ earlier ∈ front, ∃ type, catalog.lookup earlier.id = some type :=
    fun earlier hearlier =>
      exists_lookup_iff.mpr (hknown earlier.id (List.mem_map_of_mem hearlier))
  obtain ⟨grown, hgrown⟩ := exists_registerAllFor hfront hids
  have herror : (registerFor catalog grown entry).1 = .error (.unknownRuleType entry.id) := by
    have hlookup : catalog.lookup entry.id = none :=
      Catalog.lookup_eq_none_iff.mpr fun type htype hid => hunknown ⟨type, htype, hid⟩
    rw [registerFor, hlookup]
  rw [builtin, hentries, List.append_assoc, List.cons_append]
  exact registerAllFor_of_error hgrown herror

theorem builtin_of_twice {before after : List RuleType} {type : RuleType}
    (hknown : ∀ id ∈ servedIds, Known catalog id)
    (hsplit : catalog.types.items = before ++ type :: after)
    (honce : ∀ earlier ∈ before, ¬ServedTwice earlier) (hserved : ServedTwice type) :
    builtin catalog = .error (.duplicateEvaluator type.id) := by
  obtain ⟨hid, hdimension⟩ := hserved
  obtain ⟨dimension, hsome⟩ := Option.ne_none_iff_exists'.mp hdimension
  have hbefore : before.Sublist catalog.types.items := by
    rw [hsplit]
    exact List.sublist_append_left before _
  have htype : type ∈ catalog.types.items := by
    rw [hsplit]
    exact List.mem_append_right _ List.mem_cons_self
  obtain ⟨grown, hgrown⟩ := exists_served hknown hbefore honce
  have hentry := dimensionEntry?_of_dimension hsome
  have htaken : type.id ∈ grown.entries.keys := by
    rw [Roster.keys, items_of_registerAllFor hgrown, List.map_append, List.map_append]
    exact List.mem_append_right _ (List.mem_append_left _ hid)
  have herror : (registerFor catalog grown ⟨type.id, .cartItems dimension⟩).1 =
      .error (.duplicateEvaluator type.id) := by
    rw [registerFor_of_lookup (Catalog.lookup_eq_some_iff.mpr ⟨htype, rfl⟩)]
    exact register_eq_error_iff.mpr ⟨htaken, rfl⟩
  rw [builtin, hsplit, List.filterMap_append, List.filterMap_cons, hentry, ← List.append_assoc]
  exact registerAllFor_of_error hgrown herror

theorem builtin_of_unsuited {error : RegistrationError} (h : Unsuited catalog error) :
    builtin catalog = .error error := by
  cases h with
  | missing split known unknown => exact builtin_of_missing split known unknown
  | twice known split once served => exact builtin_of_twice known split once served

end Outcome

/-- What the built-in evaluators of a catalog are. -/
structure Complete (catalog : Catalog) (table : EvaluatorTable) : Prop where
  served_iff : ∀ id, (∃ evaluator, table.get? id = some evaluator) ↔
    id ∈ servedIds ∨ ∃ type ∈ catalog.types.items, type.id = id ∧ type.dimension ≠ none
  size : table.size = 13 + catalog.types.items.countP fun type => type.dimension.isSome
  dimension : ∀ type ∈ catalog.types.items, ∀ dimension, type.dimension = some dimension →
    table.get? type.id = some (Evaluator.cartItems dimension)

theorem get?_eq_some_iff_mem_keys {id : String} :
    (∃ evaluator, table.get? id = some evaluator) ↔ id ∈ table.entries.keys := by
  rw [← Roster.contains_iff, Roster.contains, ← Option.isSome_iff_exists, get?, Option.isSome_map]

theorem complete_of_builtin (h : builtin catalog = .ok table) : Complete catalog table := by
  have hentries := items_of_builtin h
  constructor
  · intro id
    rw [get?_eq_some_iff_mem_keys,
      Engine.Config.mem_keys_iff (hentries.trans (List.append_nil _).symm)]
    simp only [Engine.Config.HasEvaluator, List.not_mem_nil, false_and, exists_false, or_false]
  · have hdimensions := congrArg List.length (map_id_dimensionEntries catalog.types.items)
    rw [List.length_map, List.length_map, ← List.countP_eq_length_filter] at hdimensions
    rw [size, Roster.size, hentries, List.length_append, hdimensions]
    rfl
  · intro type htype dimension hdimension
    have hmem : ⟨type.id, .cartItems dimension⟩ ∈ table.entries.items := by
      rw [hentries]
      exact List.mem_append_right _
        (List.mem_filterMap.mpr ⟨type, htype, dimensionEntry?_of_dimension hdimension⟩)
    exact get?_of_mem hmem

/-- The built-in evaluators are registered for just the suited catalogs, completely, and for any
other catalog the error is why it is not suited. -/
theorem builtin_outcome (catalog : Catalog) :
    ((∃ table, builtin catalog = .ok table) ↔ Suited catalog) ∧
      (∀ table, builtin catalog = .ok table → Complete catalog table) ∧
        ∀ error, builtin catalog = .error error ↔ Unsuited catalog error := by
  refine ⟨⟨?_, Suited.exists_builtin⟩, fun _ => complete_of_builtin, fun error =>
    ⟨?_, builtin_of_unsuited⟩⟩
  · rintro ⟨table, htable⟩
    refine (suited_or_unsuited catalog).resolve_right ?_
    rintro ⟨error, hunsuited⟩
    rw [builtin_of_unsuited hunsuited] at htable
    cases htable
  · intro herror
    obtain hsuited | ⟨other, hunsuited⟩ := suited_or_unsuited catalog
    · obtain ⟨table, htable⟩ := hsuited.exists_builtin
      rw [htable] at herror
      cases herror
    · rw [builtin_of_unsuited hunsuited] at herror
      cases herror
      exact hunsuited

example : builtin .empty = .error (.unknownRuleType "cart:subtotal") := rfl

end EvaluatorTable

end ShippingRules
