import ShippingRules.Proofs.Catalog

/-!
Filling a catalog and a table of evaluators by any calls in any order. A call fails just when its id
or group is taken, and what it leaves behind is what there was. So after every call each of the
three lists holds what was accepted, in order, and what is found under an id is what was first
registered with it.
-/
namespace ShippingRules

/-- A catalog and a table of evaluators while they are filled. -/
structure Registries where
  catalog : Catalog
  evaluators : EvaluatorTable

namespace Registries

inductive Call where
  | addType (type : RuleType)
  | addGroup (group : Group)
  | addEvaluator (entry : Evaluator.Entry)

namespace Call

def type? : Call → Option RuleType
  | addType type => some type
  | _ => none

def group? : Call → Option Group
  | addGroup group => some group
  | _ => none

def entry? : Call → Option Evaluator.Entry
  | addEvaluator entry => some entry
  | _ => none

/-- The error of a call whose id or group is taken. -/
def duplicate : Call → RegistrationError
  | addType type => .duplicateRuleType type.id
  | addGroup group => .duplicateGroup group.name
  | addEvaluator entry => .duplicateEvaluator entry.id

end Call

/-- The result of a call, and what there is after it. -/
def answer (registries : Registries) : Call → Except RegistrationError Unit × Registries
  | .addType type =>
    let outcome := registries.catalog.register type
    (outcome.1, { registries with catalog := outcome.2 })
  | .addGroup group =>
    let outcome := registries.catalog.registerGroup group
    (outcome.1, { registries with catalog := outcome.2 })
  | .addEvaluator entry =>
    let outcome := registries.evaluators.register entry
    (outcome.1, { registries with evaluators := outcome.2 })

def step (registries : Registries) (call : Call) : Registries := (registries.answer call).2

def run (start : Registries) (calls : List Call) : Registries := calls.foldl step start

/-- The calls of a run that do not fail. -/
def accepted (start : Registries) : List Call → List Call
  | [] => []
  | call :: rest =>
    match start.answer call with
    | (.ok (), grown) => call :: grown.accepted rest
    | (.error _, left) => left.accepted rest

/-- The id of the call, or its group, is that of an item there is already. -/
def Taken (registries : Registries) : Call → Prop
  | .addType type => type.id ∈ registries.catalog.types.items.map RuleType.id
  | .addGroup group => group.name ∈ registries.catalog.groups.items.map Group.name
  | .addEvaluator entry => entry.id ∈ registries.evaluators.entries.items.map Evaluator.Entry.id

/-- The rule types that were ever registered or tried to be, those of the start included. -/
def typesTried (start : Registries) (calls : List Call) : List RuleType :=
  start.catalog.types.items ++ calls.filterMap Call.type?

def groupsTried (start : Registries) (calls : List Call) : List Group :=
  start.catalog.groups.items ++ calls.filterMap Call.group?

def entriesTried (start : Registries) (calls : List Call) : List Evaluator.Entry :=
  start.evaluators.entries.items ++ calls.filterMap Call.entry?

/-- The id of the call, or its group, was tried before. -/
def TriedBefore (start : Registries) (calls : List Call) : Call → Prop
  | .addType type => ∃ tried ∈ typesTried start calls, tried.id = type.id
  | .addGroup group => ∃ tried ∈ groupsTried start calls, tried.name = group.name
  | .addEvaluator entry => ∃ tried ∈ entriesTried start calls, tried.id = entry.id

/-- What there is after a run, told from what was tried and what was accepted. -/
structure Additive (start : Registries) (calls : List Call) (now : Registries) : Prop where
  ids_distinct : (now.catalog.types.items.map RuleType.id).Nodup
  types : now.catalog.types.items =
    start.catalog.types.items ++ (start.accepted calls).filterMap Call.type?
  size : now.catalog.types.size =
    start.catalog.types.size + ((start.accepted calls).filterMap Call.type?).length
  lookup : ∀ id, now.catalog.lookup id =
    (typesTried start calls).find? fun type => type.id == id
  lookup_accepted : ∀ id, now.catalog.lookup id =
    (start.catalog.types.items ++ (start.accepted calls).filterMap Call.type?).find?
      fun type => type.id == id
  lookup_eq_none : ∀ id, now.catalog.lookup id = none ↔
    ∀ type ∈ typesTried start calls, type.id ≠ id
  in_range : ∀ id place, now.catalog.types.places.get? id = some place →
    place < now.catalog.types.size ∧ now.catalog.types.items[place]? = now.catalog.lookup id
  groups_distinct : (now.catalog.groups.items.map Group.name).Nodup
  groups : now.catalog.groups.items =
    start.catalog.groups.items ++ (start.accepted calls).filterMap Call.group?
  group : ∀ name, (now.catalog.groups.items.find? fun group => group.name == name) =
    (groupsTried start calls).find? fun group => group.name == name
  evaluator : ∀ id, now.evaluators.get? id =
    ((entriesTried start calls).find? fun entry => entry.id == id).map Evaluator.Entry.evaluator
  evaluators_size : now.evaluators.size =
    start.evaluators.size + ((start.accepted calls).filterMap Call.entry?).length
  contains_evaluator : ∀ id, now.evaluators.contains id = true ↔
    ∃ entry ∈ entriesTried start calls, entry.id = id
  fails_iff : ∀ call error, (now.answer call).1 = .error error ↔
    TriedBefore start calls call ∧ error = call.duplicate
  unchanged : ∀ call, TriedBefore start calls call → now.step call = now

section Step

variable {registries grown : Registries} {call : Call} {error : RegistrationError}

/-- A call that does not fail adds its item at the end of its list. -/
theorem items_of_answer (h : registries.answer call = (.ok (), grown)) :
    grown.catalog.types.items = registries.catalog.types.items ++ call.type?.toList ∧
      grown.catalog.groups.items = registries.catalog.groups.items ++ call.group?.toList ∧
      grown.evaluators.entries.items =
        registries.evaluators.entries.items ++ call.entry?.toList := by
  cases call with
  | addType type =>
    obtain ⟨hresult, rfl⟩ := Prod.mk.inj h
    have hregister : registries.catalog.register type = (.ok (), _) := Prod.ext hresult rfl
    refine ⟨Catalog.items_of_register hregister, ?_, (List.append_nil _).symm⟩
    exact (congrArg Roster.items (Catalog.groups_of_register hregister)).trans
      (List.append_nil _).symm
  | addGroup group =>
    obtain ⟨hresult, rfl⟩ := Prod.mk.inj h
    obtain ⟨htypes, hgroups⟩ := Catalog.items_of_registerGroup (Prod.ext hresult rfl)
    refine ⟨?_, hgroups, (List.append_nil _).symm⟩
    exact (congrArg Directory.items htypes).trans (List.append_nil _).symm
  | addEvaluator entry =>
    obtain ⟨hresult, rfl⟩ := Prod.mk.inj h
    exact ⟨(List.append_nil _).symm, (List.append_nil _).symm,
      EvaluatorTable.items_of_register (Prod.ext hresult rfl)⟩

theorem answer_eq_error_iff :
    (registries.answer call).1 = .error error ↔
      registries.Taken call ∧ error = call.duplicate := by
  cases call with
  | addType type => exact Catalog.register_eq_error_iff
  | addGroup group => exact Catalog.registerGroup_eq_error_iff
  | addEvaluator entry => exact EvaluatorTable.register_eq_error_iff

/-- A call whose id or group is taken leaves everything as it was. -/
theorem step_of_taken (h : registries.Taken call) : registries.step call = registries := by
  cases call with
  | addType type => rw [step, answer, Catalog.register_of_taken h]
  | addGroup group => rw [step, answer, Catalog.registerGroup_of_taken h]
  | addEvaluator entry => rw [step, answer, EvaluatorTable.register_of_taken h]

/-- A call fails and leaves everything as it was, or it does not fail. -/
theorem answer_cases (registries : Registries) (call : Call) :
    (registries.Taken call ∧ registries.answer call = (.error call.duplicate, registries)) ∨
      ∃ grown, registries.answer call = (.ok (), grown) := by
  cases hresult : (registries.answer call).1 with
  | ok => exact .inr ⟨_, Prod.ext hresult rfl⟩
  | error error =>
    obtain ⟨htaken, rfl⟩ := answer_eq_error_iff.mp hresult
    exact .inl ⟨htaken, Prod.ext hresult (step_of_taken htaken)⟩

end Step

/-- One of the three lists: what it holds, the key of an item, and what a call offers it. -/
structure Shelf (α : Type) where
  items : Registries → List α
  key : α → String
  offer? : Call → Option α
  items_of_answer : ∀ {registries grown call}, answer registries call = (.ok (), grown) →
    items grown = items registries ++ (offer? call).toList
  taken : ∀ {registries call item}, registries.Taken call → offer? call = some item →
    key item ∈ (items registries).map key

namespace Shelf

def types : Shelf RuleType where
  items registries := registries.catalog.types.items
  key := RuleType.id
  offer? := Call.type?
  items_of_answer h := (Registries.items_of_answer h).1
  taken {_ call _} htaken hoffer := by
    cases call <;> cases hoffer
    exact htaken

def groups : Shelf Group where
  items registries := registries.catalog.groups.items
  key := Group.name
  offer? := Call.group?
  items_of_answer h := (Registries.items_of_answer h).2.1
  taken {_ call _} htaken hoffer := by
    cases call <;> cases hoffer
    exact htaken

def evaluators : Shelf Evaluator.Entry where
  items registries := registries.evaluators.entries.items
  key := Evaluator.Entry.id
  offer? := Call.entry?
  items_of_answer h := (Registries.items_of_answer h).2.2
  taken {_ call _} htaken hoffer := by
    cases call <;> cases hoffer
    exact htaken

variable {α : Type} (shelf : Shelf α) (start : Registries) (calls : List Call)

/-- All that was ever offered, accepted or not, after what there was at the start. -/
def tried : List α := shelf.items start ++ calls.filterMap shelf.offer?

def first? (items : List α) (key : String) : Option α :=
  items.find? fun item => shelf.key item == key

theorem items_run :
    shelf.items (start.run calls) =
      shelf.items start ++ (start.accepted calls).filterMap shelf.offer? := by
  induction calls generalizing start with
  | nil => exact (List.append_nil _).symm
  | cons call rest ih =>
    rw [run, List.foldl_cons, step, accepted]
    obtain ⟨-, hanswer⟩ | ⟨grown, hanswer⟩ := start.answer_cases call
    · rw [hanswer]
      exact ih start
    · rw [hanswer, ← run, ih grown, shelf.items_of_answer hanswer, List.append_assoc]
      cases hoffer : shelf.offer? call <;> simp [hoffer]

/-- What comes after an item of the same key is not found. -/
theorem first?_insert_taken {items middle rest : List α}
    (h : ∀ item ∈ middle, shelf.key item ∈ items.map shelf.key) (key : String) :
    shelf.first? (items ++ (middle ++ rest)) key = shelf.first? (items ++ rest) key := by
  simp only [first?, List.find?_append]
  cases hfound : items.find? fun item => shelf.key item == key with
  | some item => rw [Option.some_or, Option.some_or]
  | none =>
    have hmiddle : middle.find? (fun item => shelf.key item == key) = none := by
      rw [List.find?_eq_none] at hfound ⊢
      intro item hitem hkey
      obtain ⟨holder, hholder, hsame⟩ := List.mem_map.mp (h item hitem)
      exact hfound holder hholder (by rw [hsame, hkey])
    rw [hmiddle, Option.none_or, Option.none_or]

theorem first?_run (key : String) :
    shelf.first? (shelf.items (start.run calls)) key =
      shelf.first? (shelf.tried start calls) key := by
  induction calls generalizing start with
  | nil => rw [tried, List.filterMap_nil, List.append_nil]; rfl
  | cons call rest ih =>
    have hoffers : (call :: rest).filterMap shelf.offer? =
        (shelf.offer? call).toList ++ rest.filterMap shelf.offer? := by
      cases hoffer : shelf.offer? call <;> simp [hoffer]
    rw [run, List.foldl_cons, step, ← run, ih, tried, tried, hoffers]
    obtain ⟨htaken, hanswer⟩ | ⟨grown, hanswer⟩ := start.answer_cases call
    · -- What was offered in vain has the key of an item that comes before it.
      rw [hanswer]
      exact (shelf.first?_insert_taken (fun item hitem =>
        shelf.taken htaken (Option.mem_toList.mp hitem)) key).symm
    · rw [hanswer, shelf.items_of_answer hanswer, List.append_assoc]

theorem mem_keys_run_iff (key : String) :
    key ∈ (shelf.items (start.run calls)).map shelf.key ↔
      ∃ item ∈ shelf.tried start calls, shelf.key item = key := by
  have hsome : ∀ items : List α, (shelf.first? items key).isSome = true ↔
      ∃ item ∈ items, shelf.key item = key := by
    intro items
    simp only [first?, List.find?_isSome, beq_iff_eq]
  rw [← hsome, ← shelf.first?_run, hsome, List.mem_map]

end Shelf

variable (start : Registries) (calls : List Call)

theorem taken_run_iff (call : Call) :
    (start.run calls).Taken call ↔ TriedBefore start calls call := by
  cases call with
  | addType type => exact Shelf.types.mem_keys_run_iff start calls type.id
  | addGroup group => exact Shelf.groups.mem_keys_run_iff start calls group.name
  | addEvaluator entry => exact Shelf.evaluators.mem_keys_run_iff start calls entry.id

theorem lookup_eq_find? (catalog : Catalog) (id : String) :
    catalog.lookup id = catalog.types.items.find? fun type => type.id == id :=
  catalog.types.find?_eq_roster id

theorem lookup_run (id : String) :
    (start.run calls).catalog.lookup id =
      (typesTried start calls).find? fun type => type.id == id :=
  (lookup_eq_find? _ id).trans (Shelf.types.first?_run start calls id)

/-- Registration is additive, from any start and by any calls. -/
theorem run_additive : Additive start calls (start.run calls) where
  ids_distinct := (start.run calls).catalog.types.distinct
  types := Shelf.types.items_run start calls
  size := by
    have htypes := congrArg List.length (Shelf.types.items_run start calls)
    rwa [List.length_append] at htypes
  lookup := lookup_run start calls
  lookup_accepted id := by
    have htypes := Shelf.types.items_run start calls
    rw [lookup_eq_find?]
    exact congrArg (List.find? fun type => type.id == id) htypes
  lookup_eq_none id := by
    rw [lookup_run, List.find?_eq_none]
    simp only [beq_iff_eq, ne_eq]
  in_range id place hplace :=
    ⟨Directory.place_lt hplace, (Directory.find?_eq_getElem? hplace).symm⟩
  groups_distinct := (start.run calls).catalog.groups.distinct
  groups := Shelf.groups.items_run start calls
  group := Shelf.groups.first?_run start calls
  evaluator id := congrArg (Option.map Evaluator.Entry.evaluator)
    (Shelf.evaluators.first?_run start calls id)
  evaluators_size := by
    have hentries := congrArg List.length (Shelf.evaluators.items_run start calls)
    rwa [List.length_append] at hentries
  contains_evaluator id :=
    Roster.contains_iff.trans (Shelf.evaluators.mem_keys_run_iff start calls id)
  fails_iff call error := by
    rw [answer_eq_error_iff, taken_run_iff]
  unchanged call htried := step_of_taken ((taken_run_iff start calls call).mpr htried)

end Registries

end ShippingRules
