/-!
Finite maps from text keys to values, kept in ascending key order without repeated keys. Keys
compare by code point. Two maps with the same lookups are the same value, so equality of maps
is equality of their entry lists.
-/
namespace ShippingRules

/-- A finite map whose entries stand in strictly ascending key order. -/
structure Fields (α : Type) where
  entries : List (String × α)
  ascending : entries.Pairwise (fun a b => a.1 < b.1)
deriving DecidableEq

namespace Fields

variable {α β : Type}

def empty : Fields α := ⟨[], List.Pairwise.nil⟩

instance : Inhabited (Fields α) := ⟨empty⟩

def keys (fields : Fields α) : List String := fields.entries.map (·.1)

def lookup (key : String) : List (String × α) → Option α
  | [] => none
  | (k, value) :: rest => if k = key then some value else lookup key rest

def get? (fields : Fields α) (key : String) : Option α := lookup key fields.entries

def contains (fields : Fields α) (key : String) : Bool := (fields.get? key).isSome

/-- Place one entry, replacing the value of an equal key. -/
def place (key : String) (value : α) : List (String × α) → List (String × α)
  | [] => [(key, value)]
  | entry :: rest =>
    if key < entry.1 then (key, value) :: entry :: rest
    else if key = entry.1 then (key, value) :: rest
    else entry :: place key value rest

theorem mem_place {key : String} {value : α} {entry : String × α} {l : List (String × α)}
    (h : entry ∈ place key value l) : entry = (key, value) ∨ entry ∈ l := by
  induction l with
  | nil => simpa [place] using h
  | cons head rest ih =>
    unfold place at h
    split at h
    · simpa using h
    · split at h
      · rcases List.mem_cons.mp h with h | h
        · exact .inl h
        · exact .inr (List.mem_cons_of_mem _ h)
      · rcases List.mem_cons.mp h with h | h
        · exact .inr (h ▸ List.mem_cons_self)
        · exact (ih h).imp id (List.mem_cons_of_mem _)

theorem place_ascending (key : String) (value : α) {l : List (String × α)}
    (h : l.Pairwise (fun a b => a.1 < b.1)) :
    (place key value l).Pairwise (fun a b => a.1 < b.1) := by
  induction l with
  | nil => simp [place]
  | cons head rest ih =>
    obtain ⟨hhead, hrest⟩ := List.pairwise_cons.mp h
    unfold place
    split
    · rename_i hlt
      refine List.pairwise_cons.mpr ⟨fun b hb => ?_, h⟩
      rcases List.mem_cons.mp hb with rfl | hb
      · exact hlt
      · exact String.lt_trans hlt (hhead b hb)
    · split
      · rename_i heq
        exact List.pairwise_cons.mpr ⟨fun b hb => by simpa [heq] using hhead b hb, hrest⟩
      · rename_i hlt hne
        refine List.pairwise_cons.mpr ⟨fun b hb => ?_, ih hrest⟩
        rcases mem_place hb with rfl | hb
        · exact Decidable.byContradiction fun hcon =>
            hne (String.le_antisymm (String.not_lt.mp hcon) (String.not_lt.mp hlt))
        · exact hhead b hb

def insert (fields : Fields α) (key : String) (value : α) : Fields α :=
  ⟨place key value fields.entries, place_ascending key value fields.ascending⟩

/-- The last of several entries with one key wins. -/
def ofList (entries : List (String × α)) : Fields α :=
  entries.foldl (fun fields entry => fields.insert entry.1 entry.2) empty

/-- Add the entries of `later`; where a key is in both, the value of `later` wins. -/
def overlay (fields later : Fields α) : Fields α :=
  later.entries.foldl (fun acc entry => acc.insert entry.1 entry.2) fields

/-- Keep the entries that satisfy the predicate. -/
def filter (keep : String → α → Bool) (fields : Fields α) : Fields α :=
  ⟨fields.entries.filter (fun entry => keep entry.1 entry.2), fields.ascending.filter _⟩

/-- Keep the entries on which `f` has a value. -/
def filterMap (f : String → α → Option β) (fields : Fields α) : Fields β :=
  ⟨fields.entries.filterMap (fun entry => (f entry.1 entry.2).map (entry.1, ·)), by
    refine fields.ascending.filterMap _ fun a b hab a' ha' b' hb' => ?_
    obtain ⟨_, _, rfl⟩ := Option.map_eq_some_iff.mp ha'
    obtain ⟨_, _, rfl⟩ := Option.map_eq_some_iff.mp hb'
    exact hab⟩

/-- The same keys, with values that are the same under the given comparison. -/
def same (sameValue : α → α → Bool) (a b : Fields α) : Bool :=
  a.keys == b.keys && (a.entries.zip b.entries).all fun pair => sameValue pair.1.2 pair.2.2

def map (f : α → β) (fields : Fields α) : Fields β :=
  ⟨fields.entries.map (fun entry => (entry.1, f entry.2)), by
    exact List.pairwise_map.mpr fields.ascending⟩

end Fields

end ShippingRules
