import ShippingRules.Fields.Lemmas
import ShippingRules.Roster

/-!
Rosters with an index: under the key of each item stands its place in the list. The list and its
index are in step, so no place is out of range, no two items have the same key, and looking in the
index finds what searching the list would find.
-/
namespace ShippingRules

structure Directory (α : Type) (key : α → String) where
  items : List α
  places : Fields Nat
  placed : ∀ id place, places.get? id = some place ↔ items[place]?.map key = some id

namespace Directory

variable {α : Type} {key : α → String}

def empty : Directory α key := ⟨[], .empty, fun _ _ => ⟨nofun, nofun⟩⟩

instance : Inhabited (Directory α key) := ⟨empty⟩

def size (directory : Directory α key) : Nat := directory.items.length

def keys (directory : Directory α key) : List String := directory.items.map key

variable {directory grown : Directory α key} {id : String} {place : Nat} {item : α}

theorem getElem?_of_place (h : directory.places.get? id = some place) :
    ∃ item, directory.items[place]? = some item ∧ key item = id :=
  Option.map_eq_some_iff.mp ((directory.placed id place).mp h)

theorem place_lt (h : directory.places.get? id = some place) : place < directory.items.length := by
  obtain ⟨item, hitem, -⟩ := getElem?_of_place h
  exact (List.getElem?_eq_some_iff.mp hitem).1

/-- The item at the place that the index has for the key. -/
def find? (directory : Directory α key) (id : String) : Option α :=
  match h : directory.places.get? id with
  | none => none
  | some place => some (directory.items.get ⟨place, place_lt h⟩)

def contains (directory : Directory α key) (id : String) : Bool := directory.places.contains id

theorem find?_eq_getElem? (h : directory.places.get? id = some place) :
    directory.find? id = directory.items[place]? := by
  unfold find?
  split
  · rename_i hnone
    rw [h] at hnone
    cases hnone
  · rename_i found hfound
    rw [h] at hfound
    cases hfound
    exact (List.getElem?_eq_getElem (place_lt h)).symm

theorem exists_place (h : item ∈ directory.items) :
    ∃ place, directory.places.get? (key item) = some place ∧
      directory.items[place]? = some item := by
  obtain ⟨place, hplace⟩ := List.getElem?_of_mem h
  refine ⟨place, (directory.placed _ place).mpr ?_, hplace⟩
  rw [hplace, Option.map_some]

/-- The item under a key is the one whose key it is. -/
theorem find?_eq_some_iff :
    directory.find? id = some item ↔ item ∈ directory.items ∧ key item = id := by
  constructor
  · intro h
    cases hplace : directory.places.get? id with
    | none =>
      unfold find? at h
      split at h
      · cases h
      · rename_i found hfound
        rw [hplace] at hfound
        cases hfound
    | some place =>
      rw [find?_eq_getElem? hplace] at h
      obtain ⟨found, hfound, hkey⟩ := getElem?_of_place hplace
      rw [hfound] at h
      cases h
      exact ⟨List.mem_of_getElem? hfound, hkey⟩
  · rintro ⟨hmem, rfl⟩
    obtain ⟨place, hplace, hitem⟩ := exists_place hmem
    rw [find?_eq_getElem? hplace, hitem]

theorem contains_iff : directory.contains id = true ↔ id ∈ directory.keys := by
  rw [contains, Fields.contains_iff_exists, keys, List.mem_map]
  constructor
  · rintro ⟨place, hplace⟩
    obtain ⟨item, hitem, hkey⟩ := getElem?_of_place hplace
    exact ⟨item, List.mem_of_getElem? hitem, hkey⟩
  · rintro ⟨item, hitem, rfl⟩
    obtain ⟨place, hplace, -⟩ := exists_place hitem
    exact ⟨place, hplace⟩

/-- Items at two places have different keys. -/
theorem distinct (directory : Directory α key) : directory.keys.Nodup := by
  rw [List.nodup_iff_pairwise_ne, List.pairwise_iff_getElem]
  intro i j hi hj hlt heq
  have hfirst : directory.places.get? directory.keys[i] = some i := by
    rw [directory.placed, ← List.getElem?_map]
    exact List.getElem?_eq_getElem hi
  have hsecond : directory.places.get? directory.keys[i] = some j := by
    rw [directory.placed, heq, ← List.getElem?_map]
    exact List.getElem?_eq_getElem hj
  have hsame : some i = some j := hfirst.symm.trans hsecond
  exact absurd (Option.some.inj hsame) (Nat.ne_of_lt hlt)

/-- The list alone. -/
def roster (directory : Directory α key) : Roster α key := ⟨directory.items, directory.distinct⟩

theorem find?_eq_roster (directory : Directory α key) (id : String) :
    directory.find? id = directory.roster.find? id := by
  refine Option.ext fun item => ?_
  rw [find?_eq_some_iff, Roster.find?_eq_some_iff]
  rfl

/-- Appending an item with a new key, and placing it after the others, keeps the two in step. -/
theorem placed_append (hfree : directory.places.get? (key item) = none) (id : String)
    (place : Nat) :
    (directory.places.insert (key item) directory.items.length).get? id = some place ↔
      (directory.items ++ [item])[place]?.map key = some id := by
  rw [Fields.get?_insert]
  rcases Nat.lt_trichotomy place directory.items.length with hlt | rfl | hgt
  · rw [List.getElem?_append_left hlt, ← directory.placed]
    split
    · rename_i hid
      rw [hid, hfree, Option.some.injEq]
      exact iff_of_false (Nat.ne_of_gt hlt) nofun
    · rfl
  · rw [List.getElem?_concat_length, Option.map_some, Option.some.injEq]
    split
    · rename_i hid
      exact iff_of_true rfl hid.symm
    · rename_i hid
      refine iff_of_false (fun h => ?_) fun h => hid h.symm
      exact absurd (place_lt h) (Nat.lt_irrefl _)
  · have hnone : (directory.items ++ [item])[place]? = none := by
      rw [List.getElem?_eq_none_iff, List.length_append, List.length_singleton]
      exact hgt
    rw [hnone]
    refine iff_of_false ?_ nofun
    split
    · rw [Option.some.injEq]
      exact Nat.ne_of_lt hgt
    · intro h
      exact absurd (place_lt h) (Nat.not_lt_of_lt hgt)

/-- Add an item at the end, unless its key is taken. -/
def add? (directory : Directory α key) (item : α) : Option (Directory α key) :=
  if h : directory.contains (key item) = true then none
  else some
    { items := directory.items ++ [item]
      places := directory.places.insert (key item) directory.items.length
      placed := placed_append (Option.not_isSome_iff_eq_none.mp h) }

theorem items_of_add? (h : directory.add? item = some grown) :
    grown.items = directory.items ++ [item] := by
  unfold add? at h
  split at h
  · cases h
  · cases h
    rfl

theorem add?_eq_none_iff : directory.add? item = none ↔ key item ∈ directory.keys := by
  rw [← contains_iff]
  unfold add?
  split <;> simp_all

theorem placed_ofList {items : List α} (distinct : (items.map key).Nodup) (id : String)
    (place : Nat) :
    (Fields.ofList ((items.map key).zipIdx)).get? id = some place ↔
      items[place]?.map key = some id := by
  rw [← List.getElem?_map]
  constructor
  · intro h
    exact List.mem_zipIdx_iff_getElem?.mp (Fields.mem_of_get?_ofList h)
  · intro h
    have hmem : (id, place) ∈ (items.map key).zipIdx := List.mem_zipIdx_iff_getElem?.mpr h
    cases hfound : (Fields.ofList (items.map key).zipIdx).get? id with
    | none =>
      rw [Fields.get?_ofList, Fields.lastWith_eq_none_iff] at hfound
      exact absurd rfl (hfound _ hmem)
    | some found =>
      have hother : (items.map key)[found]? = some id :=
        List.mem_zipIdx_iff_getElem?.mp (Fields.mem_of_get?_ofList hfound)
      have hlt : found < (items.map key).length := (List.getElem?_eq_some_iff.mp hother).1
      rw [(List.getElem?_inj hlt distinct).mp (hother.trans h.symm)]

/-- Items with different keys, each in its place. -/
def ofList (items : List α) (distinct : (items.map key).Nodup) : Directory α key :=
  ⟨items, .ofList (items.map key).zipIdx, placed_ofList distinct⟩

end Directory

end ShippingRules
