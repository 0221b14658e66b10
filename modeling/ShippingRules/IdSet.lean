/-!
Finite sets of identifiers, listed in strictly ascending order. A set built from a list has the
members of the list, whatever its order and repetitions.
-/
namespace ShippingRules

/-- A finite set of identifiers, listed in strictly ascending order. -/
structure IdSet where
  ids : List String
  ascending : ids.Pairwise (· < ·)
deriving DecidableEq

namespace IdSet

def empty : IdSet := ⟨[], List.Pairwise.nil⟩

instance : Inhabited IdSet := ⟨empty⟩

def isEmpty (set : IdSet) : Bool := set.ids.isEmpty

def contains (set : IdSet) (id : String) : Bool := set.ids.contains id

def place (id : String) : List String → List String
  | [] => [id]
  | head :: rest =>
    if id < head then id :: head :: rest
    else if id = head then head :: rest
    else head :: place id rest

theorem mem_place {id x : String} {l : List String} : x ∈ place id l ↔ x = id ∨ x ∈ l := by
  induction l with
  | nil => simp [place]
  | cons head rest ih =>
    unfold place
    split
    · simp
    · split
      · rename_i heq
        subst heq
        simp
      · simp only [List.mem_cons, ih]
        constructor
        · rintro (h | h | h)
          · exact .inr (.inl h)
          · exact .inl h
          · exact .inr (.inr h)
        · rintro (h | h | h)
          · exact .inr (.inl h)
          · exact .inl h
          · exact .inr (.inr h)

theorem place_ascending (id : String) {l : List String} (h : l.Pairwise (· < ·)) :
    (place id l).Pairwise (· < ·) := by
  induction l with
  | nil => simp [place]
  | cons head rest ih =>
    obtain ⟨hhead, hrest⟩ := List.pairwise_cons.mp h
    unfold place
    split
    · rename_i hlt
      refine List.pairwise_cons.mpr ⟨fun b hb => ?_, h⟩
      rcases List.mem_cons.mp hb with rfl | hb
      · exact hlt
      · exact String.lt_trans hlt (hhead b hb)
    · split
      · exact h
      · rename_i hlt hne
        refine List.pairwise_cons.mpr ⟨fun b hb => ?_, ih hrest⟩
        rcases mem_place.mp hb with rfl | hb
        · exact Decidable.byContradiction fun hcon =>
            hne (String.le_antisymm (String.not_lt.mp hcon) (String.not_lt.mp hlt))
        · exact hhead b hb

def insert (set : IdSet) (id : String) : IdSet :=
  ⟨place id set.ids, place_ascending id set.ascending⟩

def ofList (ids : List String) : IdSet := ids.foldl insert empty

instance : Membership String IdSet := ⟨fun set id => id ∈ set.ids⟩

theorem mem_insert {set : IdSet} {id x : String} : x ∈ set.insert id ↔ x = id ∨ x ∈ set :=
  mem_place

theorem mem_ofList {ids : List String} {x : String} : x ∈ ofList ids ↔ x ∈ ids := by
  suffices h : ∀ set : IdSet, x ∈ ids.foldl insert set ↔ x ∈ ids ∨ x ∈ set by
    exact (h empty).trans (or_iff_left List.not_mem_nil)
  induction ids with
  | nil => simp
  | cons id rest ih =>
    intro set
    rw [List.foldl_cons, ih, mem_insert, List.mem_cons]
    constructor
    · rintro (h | h | h)
      · exact .inl (.inr h)
      · exact .inl (.inl h)
      · exact .inr h
    · rintro ((h | h) | h)
      · exact .inr (.inl h)
      · exact .inl h
      · exact .inr (.inr h)

theorem ofList_concat (ids : List String) (id : String) :
    ofList (ids ++ [id]) = (ofList ids).insert id := by
  rw [ofList, ofList, List.foldl_append]
  rfl

theorem contains_iff {set : IdSet} {id : String} : set.contains id = true ↔ id ∈ set := by
  simp [contains, Membership.mem]

theorem nodup_ids (set : IdSet) : set.ids.Nodup := by
  have hne : ∀ {a b : String}, a < b → a ≠ b := fun hlt heq => String.lt_irrefl _ (heq ▸ hlt)
  exact List.nodup_iff_pairwise_ne.mpr (set.ascending.imp hne)

/-- Sets with the same members are equal. -/
theorem ext_mem {a b : IdSet} (h : ∀ id, id ∈ a ↔ id ∈ b) : a = b := by
  have hperm : a.ids.Perm b.ids := (List.perm_ext_iff_of_nodup a.nodup_ids b.nodup_ids).mpr h
  have hids : a.ids = b.ids :=
    List.Perm.eq_of_pairwise
      (fun _ _ _ _ hab hba => absurd (String.lt_trans hab hba) (String.lt_irrefl _))
      a.ascending b.ascending hperm
  cases a
  cases b
  cases hids
  rfl

end IdSet

end ShippingRules
