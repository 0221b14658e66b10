import ShippingRules.Fields.Lemmas
import ShippingRules.Json.Basic

/-!
Values as trees: induction over a value, how deep it nests, and the numbers that stand in it. A
bound on the depth of an array or object is a bound, one less, on the depth of its parts, and its
numbers are those of its parts.
-/
namespace ShippingRules.Json

/-- What holds of the flat values, and of a value as soon as it holds of its parts, holds of every
value. -/
@[elab_as_elim]
theorem induct {motive : Json → Prop} (null : motive null) (bool : ∀ b, motive (bool b))
    (number : ∀ n, motive (number n)) (text : ∀ s, motive (text s))
    (array : ∀ items, (∀ item ∈ items, motive item) → motive (array items))
    (object : ∀ fields : Fields Json,
      (∀ key value, fields.get? key = some value → motive value) → motive (object fields))
    (json : Json) : motive json := by
  obtain ⟨tree, canonical⟩ := json
  induction canonical with
  | null => exact null
  | bool b => exact bool b
  | number n => exact number n
  | text s => exact text s
  | array items each ih =>
    rw [← ofView_view ⟨.array items, _⟩]
    apply array
    intro item hitem
    obtain ⟨part, hpart, rfl⟩ := List.mem_pmap.mp hitem
    exact ih part hpart
  | object fields ascending each ih =>
    rw [← ofView_view ⟨.object fields, _⟩]
    apply object
    intro key value hget
    obtain ⟨field, hfield, heq⟩ := List.mem_pmap.mp (Fields.get?_eq_some_iff.mp hget)
    cases heq
    exact ih field hfield

section Nesting

theorem itemsNesting_le_iff {items : List Tree} {depth : Nat} :
    Tree.itemsNesting items ≤ depth ↔ ∀ item ∈ items, item.nesting ≤ depth := by
  induction items with
  | nil => simp [Tree.itemsNesting]
  | cons head rest ih =>
    simp only [Tree.itemsNesting, Nat.max_le, ih, List.forall_mem_cons]

theorem fieldsNesting_le_iff {fields : List (String × Tree)} {depth : Nat} :
    Tree.fieldsNesting fields ≤ depth ↔ ∀ field ∈ fields, field.2.nesting ≤ depth := by
  induction fields with
  | nil => simp [Tree.fieldsNesting]
  | cons head rest ih =>
    simp only [Tree.fieldsNesting, Nat.max_le, ih, List.forall_mem_cons]

theorem nesting_array_le_iff {items : List Json} {depth : Nat} :
    (array items).nesting ≤ depth + 1 ↔ ∀ item ∈ items, item.nesting ≤ depth := by
  simp [nesting, array, Tree.nesting, itemsNesting_le_iff]

theorem nesting_object_le_iff {fields : Fields Json} {depth : Nat} :
    (object fields).nesting ≤ depth + 1 ↔
      ∀ key value, fields.get? key = some value → value.nesting ≤ depth := by
  simp only [nesting, object, Tree.nesting, Nat.add_le_add_iff_right, fieldsNesting_le_iff,
    List.mem_map, Fields.get?_eq_some_iff]
  constructor
  · intro h key value hmem
    exact h _ ⟨(key, value), hmem, rfl⟩
  · rintro h _ ⟨field, hmem, rfl⟩
    exact h field.1 field.2 hmem

theorem not_nesting_array_le_zero (items : List Json) : ¬(array items).nesting ≤ 0 := by
  simp [nesting, array, Tree.nesting]

theorem not_nesting_object_le_zero (fields : Fields Json) : ¬(object fields).nesting ≤ 0 := by
  simp [nesting, object, Tree.nesting]

/-- The parts of a value are no deeper than the value. -/
theorem nesting_le_of_mem_array {items : List Json} {depth : Nat}
    (h : (array items).nesting ≤ depth) : ∀ item ∈ items, item.nesting ≤ depth := by
  cases depth with
  | zero => exact absurd h (not_nesting_array_le_zero items)
  | succ depth =>
    exact fun item hitem => Nat.le_succ_of_le (nesting_array_le_iff.mp h item hitem)

theorem nesting_le_of_get?_object {fields : Fields Json} {depth : Nat}
    (h : (object fields).nesting ≤ depth) :
    ∀ key value, fields.get? key = some value → value.nesting ≤ depth := by
  cases depth with
  | zero => exact absurd h (not_nesting_object_le_zero fields)
  | succ depth =>
    exact fun key value hget => Nat.le_succ_of_le (nesting_object_le_iff.mp h key value hget)

theorem nesting_insert_le {fields : Fields Json} {json : Json} {depth : Nat}
    (hfields : (object fields).nesting ≤ depth + 1) (hjson : json.nesting ≤ depth) (key : String) :
    (object (fields.insert key json)).nesting ≤ depth + 1 := by
  rw [nesting_object_le_iff] at hfields ⊢
  intro other value hget
  rw [Fields.get?_insert] at hget
  split at hget
  · cases hget
    exact hjson
  · exact hfields other value hget

theorem nesting_array_le_of_perm {items shuffled : List Json} {depth : Nat}
    (h : shuffled.Perm items) (hitems : (array items).nesting ≤ depth) :
    (array shuffled).nesting ≤ depth := by
  cases depth with
  | zero => exact absurd hitems (not_nesting_array_le_zero items)
  | succ depth =>
    rw [nesting_array_le_iff] at hitems ⊢
    exact fun item hitem => hitems item (h.mem_iff.mp hitem)

end Nesting

namespace Tree

mutual

/-- The numbers that stand in a value. -/
def numbers : Tree → List Number
  | .number n => [n]
  | .array items => itemsNumbers items
  | .object fields => fieldsNumbers fields
  | _ => []

def itemsNumbers : List Tree → List Number
  | [] => []
  | item :: rest => item.numbers ++ itemsNumbers rest

def fieldsNumbers : List (String × Tree) → List Number
  | [] => []
  | field :: rest => field.2.numbers ++ fieldsNumbers rest

end

end Tree

/-- The numbers that stand in a value. -/
def numbers (json : Json) : List Number := json.tree.numbers

section Numbers

variable {n : Number}

theorem mem_itemsNumbers_iff {items : List Tree} :
    n ∈ Tree.itemsNumbers items ↔ ∃ item ∈ items, n ∈ item.numbers := by
  induction items with
  | nil => simp [Tree.itemsNumbers]
  | cons head rest ih => simp [Tree.itemsNumbers, ih]

theorem mem_fieldsNumbers_iff {fields : List (String × Tree)} :
    n ∈ Tree.fieldsNumbers fields ↔ ∃ field ∈ fields, n ∈ field.2.numbers := by
  induction fields with
  | nil => simp [Tree.fieldsNumbers]
  | cons head rest ih => simp [Tree.fieldsNumbers, ih]

theorem numbers_number (n : Number) : (number n).numbers = [n] := by
  simp only [numbers, number, Tree.numbers]

theorem mem_numbers_array_iff {items : List Json} :
    n ∈ (array items).numbers ↔ ∃ item ∈ items, n ∈ item.numbers := by
  simp only [numbers, array, Tree.numbers, mem_itemsNumbers_iff, List.mem_map]
  constructor
  · rintro ⟨_, ⟨item, hitem, rfl⟩, hn⟩
    exact ⟨item, hitem, hn⟩
  · rintro ⟨item, hitem, hn⟩
    exact ⟨_, ⟨item, hitem, rfl⟩, hn⟩

theorem mem_numbers_object_iff {fields : Fields Json} :
    n ∈ (object fields).numbers ↔
      ∃ key value, fields.get? key = some value ∧ n ∈ value.numbers := by
  simp only [numbers, object, Tree.numbers, mem_fieldsNumbers_iff, List.mem_map,
    Fields.get?_eq_some_iff]
  constructor
  · rintro ⟨_, ⟨field, hfield, rfl⟩, hn⟩
    exact ⟨field.1, field.2, hfield, hn⟩
  · rintro ⟨key, value, hmem, hn⟩
    exact ⟨_, ⟨(key, value), hmem, rfl⟩, hn⟩

theorem mem_numbers_insert {fields : Fields Json} {json : Json} {key : String}
    (h : n ∈ (object (fields.insert key json)).numbers) :
    n ∈ json.numbers ∨ n ∈ (object fields).numbers := by
  obtain ⟨other, value, hget, hn⟩ := mem_numbers_object_iff.mp h
  rw [Fields.get?_insert] at hget
  split at hget
  · cases hget
    exact .inl hn
  · exact .inr (mem_numbers_object_iff.mpr ⟨other, value, hget, hn⟩)

theorem mem_numbers_array_of_perm {items shuffled : List Json} (h : shuffled.Perm items)
    (hn : n ∈ (array shuffled).numbers) : n ∈ (array items).numbers := by
  obtain ⟨item, hitem, hn⟩ := mem_numbers_array_iff.mp hn
  exact mem_numbers_array_iff.mpr ⟨item, h.mem_iff.mp hitem, hn⟩

end Numbers

end ShippingRules.Json
