import ShippingRules.Engine.Basic

/-!
The evaluators of a built engine are the built-in ones, one for each rule type with a cart
dimension, and the configured ones. Of these only a configured evaluator can look at the kept
fields of a rule; what a rule without one comes to is decided by its type, operator and parameters.
-/
namespace ShippingRules

namespace Evaluator

/-- The kept fields of a rule have no part in its evaluation. -/
def IgnoresExtra (evaluator : Evaluator) : Prop :=
  ∀ (rule : Rule) (extra : Fields Json) (snapshot : Snapshot),
    evaluator { rule with extra := extra } snapshot = evaluator rule snapshot

theorem ignoresExtra_cartItems (dimension : Dimension) : (cartItems dimension).IgnoresExtra :=
  fun _ _ _ => rfl

end Evaluator

namespace EvaluatorTable

variable {table grown : EvaluatorTable} {catalog : Catalog}

theorem items_of_register {entry : Evaluator.Entry} (h : table.register entry = (.ok (), grown)) :
    grown.entries.items = table.entries.items ++ [entry] := by
  unfold register at h
  split at h
  · rename_i entries hadd
    cases h
    exact Roster.items_of_add? hadd
  · cases h

theorem register_of_taken {entry : Evaluator.Entry} (h : entry.id ∈ table.entries.keys) :
    table.register entry = (.error (.duplicateEvaluator entry.id), table) := by
  rw [register, Roster.add?_eq_none_iff.mpr h]

theorem register_eq_error_iff {entry : Evaluator.Entry} {error : RegistrationError} :
    (table.register entry).1 = .error error ↔
      entry.id ∈ table.entries.keys ∧ error = .duplicateEvaluator entry.id := by
  constructor
  · intro h
    unfold register at h
    split at h
    · cases h
    · rename_i hnone
      exact ⟨Roster.add?_eq_none_iff.mp hnone, (Except.error.inj h).symm⟩
  · rintro ⟨htaken, rfl⟩
    rw [register_of_taken htaken]

theorem items_of_registerFor {entry : Evaluator.Entry}
    (h : registerFor catalog table entry = (.ok (), grown)) :
    grown.entries.items = table.entries.items ++ [entry] := by
  unfold registerFor at h
  split at h
  · cases h
  · exact items_of_register h

theorem items_of_registerAllFor {entries : List Evaluator.Entry}
    (h : registerAllFor catalog table entries = .ok grown) :
    grown.entries.items = table.entries.items ++ entries := by
  induction entries generalizing table with
  | nil =>
    cases h
    exact (List.append_nil _).symm
  | cons entry rest ih =>
    unfold registerAllFor at h
    split at h
    · rename_i next hnext
      rw [ih h, items_of_registerFor hnext, List.append_assoc, List.singleton_append]
    · cases h

theorem registerFor_of_lookup {entry : Evaluator.Entry} {type : RuleType}
    (h : catalog.lookup entry.id = some type) :
    registerFor catalog table entry = table.register entry := by
  rw [registerFor, h]

/-- Entries for known rule types are registered if no two of their ids are the same, and none is
that of an entry there is. -/
theorem exists_registerAllFor {entries : List Evaluator.Entry}
    (hknown : ∀ entry ∈ entries, ∃ type, catalog.lookup entry.id = some type)
    (hids : ((table.entries.items ++ entries).map Evaluator.Entry.id).Nodup) :
    ∃ grown, registerAllFor catalog table entries = .ok grown := by
  induction entries generalizing table with
  | nil => exact ⟨table, rfl⟩
  | cons entry rest ih =>
    obtain ⟨type, hlookup⟩ := hknown entry List.mem_cons_self
    rw [registerAllFor, registerFor_of_lookup hlookup]
    cases hregister : table.register entry with | mk result next =>
    cases result with
    | ok =>
      apply ih fun other hother => hknown other (List.mem_cons_of_mem _ hother)
      rwa [items_of_register hregister, List.append_assoc, List.singleton_append]
    | error error =>
      obtain ⟨htaken, -⟩ := register_eq_error_iff.mp (congrArg Prod.fst hregister)
      rw [List.map_append, List.nodup_append] at hids
      exact absurd rfl (hids.2.2 _ htaken _ List.mem_cons_self)

theorem registerAllFor_append {entries rest : List Evaluator.Entry}
    (h : registerAllFor catalog table entries = .ok grown) :
    registerAllFor catalog table (entries ++ rest) = registerAllFor catalog grown rest := by
  induction entries generalizing table with
  | nil =>
    cases h
    rfl
  | cons entry entries ih =>
    rw [registerAllFor] at h
    rw [List.cons_append, registerAllFor]
    cases hregister : registerFor catalog table entry with | mk result next =>
    cases result with
    | ok =>
      rw [hregister] at h
      exact ih h
    | error error =>
      rw [hregister] at h
      cases h

/-- The first entry that is for no known rule type, or whose id is taken, is the error. -/
theorem registerAllFor_of_error {before after : List Evaluator.Entry} {entry : Evaluator.Entry}
    {error : RegistrationError}
    (hbefore : registerAllFor catalog table before = .ok grown)
    (herror : (registerFor catalog grown entry).1 = .error error) :
    registerAllFor catalog table (before ++ entry :: after) = .error error := by
  rw [registerAllFor_append hbefore, registerAllFor]
  cases hregister : registerFor catalog grown entry with | mk result next =>
  rw [hregister] at herror
  cases herror
  rfl

theorem mem_items_of_get? {id : String} {evaluator : Evaluator}
    (h : table.get? id = some evaluator) : ⟨id, evaluator⟩ ∈ table.entries.items := by
  obtain ⟨entry, hentry, rfl⟩ := Option.map_eq_some_iff.mp h
  obtain ⟨hmem, rfl⟩ := Roster.find?_eq_some_iff.mp hentry
  exact hmem

theorem dimensionEntry?_of_dimension {type : RuleType} {dimension : Dimension}
    (h : type.dimension = some dimension) :
    dimensionEntry? type = some ⟨type.id, .cartItems dimension⟩ :=
  Option.map_eq_some_iff.mpr ⟨dimension, h, rfl⟩

theorem ignoresExtra_builtinEntries :
    ∀ entry ∈ builtinEntries, entry.evaluator.IgnoresExtra := by
  intro entry hentry
  simp only [builtinEntries, List.mem_cons, List.not_mem_nil, or_false] at hentry
  -- Each of them reads a rule through its operator and its parameters alone.
  rcases hentry with rfl | rfl | rfl | rfl | rfl | rfl | rfl | rfl | rfl | rfl | rfl | rfl | rfl <;>
    exact fun _ _ _ => rfl

end EvaluatorTable

namespace Engine

variable {config : Config} {engine : Engine}

theorem evaluators_of_build (h : build config = .ok engine) :
    engine.evaluators.entries.items =
      EvaluatorTable.builtinEntries ++
        engine.catalog.types.items.filterMap EvaluatorTable.dimensionEntry? ++
          config.evaluators := by
  unfold build at h
  split at h
  · cases h
  split at h
  · cases h
  split at h
  · cases h
  rename_i hbuiltin
  split at h
  · cases h
  rename_i hconfigured
  cases h
  rw [EvaluatorTable.items_of_registerAllFor hconfigured,
    EvaluatorTable.items_of_registerAllFor hbuiltin]
  rfl

/-- Without configured evaluators each evaluator is a built-in one, under its own id, or that of
the dimension of a rule type, under the id of the type. -/
theorem evaluator_cases (h : build config = .ok engine) (hconfig : config.evaluators = [])
    {id : String} {evaluator : Evaluator} (hget : engine.evaluators.get? id = some evaluator) :
    ⟨id, evaluator⟩ ∈ EvaluatorTable.builtinEntries ∨
      ∃ type ∈ engine.catalog.types.items, type.id = id ∧
        ∃ dimension, type.dimension = some dimension ∧ evaluator = .cartItems dimension := by
  have hmem := EvaluatorTable.mem_items_of_get? hget
  rw [evaluators_of_build h, hconfig, List.append_nil, List.mem_append] at hmem
  rcases hmem with hbuiltin | hlisted
  · exact .inl hbuiltin
  · obtain ⟨type, htype, hentry⟩ := List.mem_filterMap.mp hlisted
    obtain ⟨dimension, hdimension, hmade⟩ := Option.map_eq_some_iff.mp hentry
    cases hmade
    exact .inr ⟨type, htype, rfl, dimension, hdimension, rfl⟩

/-- Without configured evaluators no evaluator looks at kept fields. -/
theorem ignoresExtra_of_build (h : build config = .ok engine) (hconfig : config.evaluators = [])
    {id : String} {evaluator : Evaluator} (hget : engine.evaluators.get? id = some evaluator) :
    evaluator.IgnoresExtra := by
  obtain hbuiltin | ⟨-, -, -, dimension, -, rfl⟩ := evaluator_cases h hconfig hget
  · exact EvaluatorTable.ignoresExtra_builtinEntries _ hbuiltin
  · exact Evaluator.ignoresExtra_cartItems dimension

/-- Two rules of one type come to the same if their evaluator, where there is one, tells no
difference, and neither do their operators. -/
theorem evaluateRule_congr {rule other : Rule} {snapshot later : Snapshot}
    (htype : other.ruleType = rule.ruleType)
    (hsame : ∀ type evaluator, engine.catalog.lookup rule.ruleType = some type →
      engine.evaluators.get? type.id = some evaluator →
        other.operator? = rule.operator? ∧ evaluator other later = evaluator rule snapshot) :
    engine.evaluateRule later other = engine.evaluateRule snapshot rule := by
  unfold evaluateRule
  rw [htype]
  cases hlookup : engine.catalog.lookup rule.ruleType with
  | none => rfl
  | some type =>
    cases hget : engine.evaluators.get? type.id with
    | none => simp only [hget]
    | some evaluator =>
      obtain ⟨hoperator, hanswer⟩ := hsame type evaluator hlookup hget
      simp only [hget, hoperator, hanswer]

theorem evaluateRule_of_extra (h : build config = .ok engine) (hconfig : config.evaluators = [])
    (snapshot : Snapshot) (rule : Rule) (extra : Fields Json) :
    engine.evaluateRule snapshot { rule with extra := extra } =
      engine.evaluateRule snapshot rule := by
  refine evaluateRule_congr ?_ fun type evaluator _ hget => ?_
  · rfl
  · exact ⟨rfl, ignoresExtra_of_build h hconfig hget rule extra snapshot⟩

end Engine

end ShippingRules
