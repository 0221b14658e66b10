/-!
Lists that only grow: items in the order they were added, no two with the same key. Adding an item
whose key is taken is refused and changes nothing, so the item found under a key is always the
first that was added with it.
-/
namespace ShippingRules

structure Roster (α : Type) (key : α → String) where
  items : List α
  distinct : (items.map key).Nodup

namespace Roster

variable {α : Type} {key : α → String}

def empty : Roster α key := ⟨[], List.nodup_nil⟩

instance : Inhabited (Roster α key) := ⟨empty⟩

def size (roster : Roster α key) : Nat := roster.items.length

def keys (roster : Roster α key) : List String := roster.items.map key

def find? (roster : Roster α key) (id : String) : Option α :=
  roster.items.find? fun item => key item == id

def contains (roster : Roster α key) (id : String) : Bool := (roster.find? id).isSome

theorem contains_iff {roster : Roster α key} {id : String} :
    roster.contains id = true ↔ id ∈ roster.keys := by
  simp [contains, find?, keys]

/-- Add an item at the end, unless its key is taken. -/
def add? (roster : Roster α key) (item : α) : Option (Roster α key) :=
  if h : roster.contains (key item) = true then none
  else some ⟨roster.items ++ [item], by
    rw [List.map_append, List.nodup_append]
    refine ⟨roster.distinct, by simp, ?_⟩
    intro a ha b hb hab
    have hb : b = key item := by simpa using hb
    exact h (contains_iff.mpr (hb ▸ hab ▸ ha))⟩

theorem items_of_add? {roster grown : Roster α key} {item : α}
    (h : roster.add? item = some grown) : grown.items = roster.items ++ [item] := by
  unfold add? at h
  split at h
  · cases h
  · cases h
    rfl

theorem add?_eq_none_iff {roster : Roster α key} {item : α} :
    roster.add? item = none ↔ key item ∈ roster.keys := by
  rw [← contains_iff]
  unfold add?
  split <;> simp_all

/-- The item under a key is the one whose key it is. -/
theorem find?_eq_some_iff {roster : Roster α key} {id : String} {item : α} :
    roster.find? id = some item ↔ item ∈ roster.items ∧ key item = id := by
  constructor
  · intro h
    exact ⟨List.mem_of_find?_eq_some h, by simpa using List.find?_some h⟩
  · rintro ⟨hmem, rfl⟩
    obtain ⟨items, distinct⟩ := roster
    simp only [find?] at hmem ⊢
    induction items with
    | nil => cases hmem
    | cons head rest ih =>
      obtain ⟨hhead, hrest⟩ := List.nodup_cons.mp distinct
      rcases List.mem_cons.mp hmem with rfl | hmem
      · simp
      · have hne : key head ≠ key item := fun h => hhead (h ▸ List.mem_map_of_mem hmem)
        rw [List.find?_cons_of_neg (by simpa using hne)]
        exact ih hrest hmem

end Roster

end ShippingRules
