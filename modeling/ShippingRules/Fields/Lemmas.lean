import ShippingRules.Fields

/-!
Lookups of maps. Each operation is described by what `get?` finds afterwards, and two maps with
the same lookups are equal. With these equations nothing else needs the order of the entries.
-/
namespace ShippingRules.Fields

variable {α β : Type}

theorem lookup_place (key other : String) (value : α) (l : List (String × α)) :
    lookup key (place other value l) = if key = other then some value else lookup key l := by
  induction l with
  | nil => simp [place, lookup, eq_comm]
  | cons head rest ih =>
    unfold place
    split
    · simp [lookup, eq_comm]
    · split
      · rename_i heq
        subst heq
        by_cases h : key = head.1 <;> simp [lookup, eq_comm, h]
      · rename_i hne
        by_cases h : head.1 = key
        · have hkey : key ≠ other := fun hkey => hne (hkey ▸ h.symm)
          simp [lookup, h, hkey]
        · simp [lookup, h, ih]

theorem get?_empty (key : String) : (empty : Fields α).get? key = none := rfl

theorem get?_insert (fields : Fields α) (key other : String) (value : α) :
    (fields.insert other value).get? key = if key = other then some value else fields.get? key :=
  lookup_place key other value fields.entries

theorem lookup_eq_some_iff {l : List (String × α)} (ascending : l.Pairwise fun a b => a.1 < b.1)
    {key : String} {value : α} : lookup key l = some value ↔ (key, value) ∈ l := by
  induction l with
  | nil => simp [lookup]
  | cons head rest ih =>
    obtain ⟨hhead, hrest⟩ := List.pairwise_cons.mp ascending
    unfold lookup
    split
    · rename_i heq
      subst heq
      constructor
      · intro h
        cases h
        exact List.mem_cons_self
      · intro h
        rcases List.mem_cons.mp h with h | h
        · rw [← h]
        · exact absurd (hhead _ h) (String.lt_irrefl _)
    · rename_i hne
      rw [ih hrest, List.mem_cons]
      exact ⟨.inr, fun h => h.resolve_left fun h => hne (h ▸ rfl)⟩

theorem get?_eq_some_iff {fields : Fields α} {key : String} {value : α} :
    fields.get? key = some value ↔ (key, value) ∈ fields.entries :=
  lookup_eq_some_iff fields.ascending

theorem contains_iff_exists {fields : Fields α} {key : String} :
    fields.contains key = true ↔ ∃ value, fields.get? key = some value :=
  Option.isSome_iff_exists

theorem contains_iff {fields : Fields α} {key : String} :
    fields.contains key = true ↔ key ∈ fields.keys := by
  rw [contains_iff_exists, keys, List.mem_map]
  constructor
  · rintro ⟨value, h⟩
    exact ⟨(key, value), get?_eq_some_iff.mp h, rfl⟩
  · rintro ⟨entry, h, rfl⟩
    exact ⟨entry.2, get?_eq_some_iff.mpr h⟩

theorem get?_eq_none_iff {fields : Fields α} {key : String} :
    fields.get? key = none ↔ key ∉ fields.keys := by
  rw [← contains_iff, contains, Option.not_isSome_iff_eq_none]

/-- Ascending entry lists with the same members are equal. -/
theorem eq_of_mem_iff {a b : List (String × α)} (ha : a.Pairwise fun x y => x.1 < y.1)
    (hb : b.Pairwise fun x y => x.1 < y.1) (h : ∀ entry, entry ∈ a ↔ entry ∈ b) : a = b := by
  induction a generalizing b with
  | nil =>
    cases b with
    | nil => rfl
    | cons head rest => exact absurd ((h head).mpr List.mem_cons_self) List.not_mem_nil
  | cons first as ih =>
    cases b with
    | nil => exact absurd ((h first).mp List.mem_cons_self) List.not_mem_nil
    | cons second bs =>
      obtain ⟨hfirst, has⟩ := List.pairwise_cons.mp ha
      obtain ⟨hsecond, hbs⟩ := List.pairwise_cons.mp hb
      have heads : first = second := by
        rcases List.mem_cons.mp ((h first).mp List.mem_cons_self) with heq | hmem
        · exact heq
        · rcases List.mem_cons.mp ((h second).mpr List.mem_cons_self) with heq | hmem'
          · exact heq.symm
          · exact absurd (String.lt_trans (hsecond _ hmem) (hfirst _ hmem')) (String.lt_irrefl _)
      subst heads
      have rests : ∀ entry, entry ∈ as ↔ entry ∈ bs := by
        intro entry
        constructor
        · intro hmem
          refine (List.mem_cons.mp ((h entry).mp (List.mem_cons_of_mem _ hmem))).resolve_left ?_
          rintro rfl
          exact String.lt_irrefl _ (hfirst _ hmem)
        · intro hmem
          refine (List.mem_cons.mp ((h entry).mpr (List.mem_cons_of_mem _ hmem))).resolve_left ?_
          rintro rfl
          exact String.lt_irrefl _ (hsecond _ hmem)
      rw [ih has hbs rests]

theorem ext_get? {a b : Fields α} (h : ∀ key, a.get? key = b.get? key) : a = b := by
  have hentries : a.entries = b.entries := by
    refine eq_of_mem_iff a.ascending b.ascending ?_
    intro entry
    rw [← get?_eq_some_iff, ← get?_eq_some_iff, h]
  cases a
  cases b
  cases hentries
  rfl

theorem lookup_filterMap (f : String → α → Option β) (key : String) {l : List (String × α)}
    (ascending : l.Pairwise fun a b => a.1 < b.1) :
    lookup key (l.filterMap fun entry => (f entry.1 entry.2).map (entry.1, ·)) =
      (lookup key l).bind (f key) := by
  induction l with
  | nil => rfl
  | cons head rest ih =>
    obtain ⟨hhead, hrest⟩ := List.pairwise_cons.mp ascending
    by_cases hkey : head.1 = key
    · subst hkey
      have habsent : lookup head.1 rest = none := by
        cases hl : lookup head.1 rest with
        | none => rfl
        | some value =>
          have hmem := (lookup_eq_some_iff hrest).mp hl
          exact absurd (hhead _ hmem) (String.lt_irrefl _)
      cases hf : f head.1 head.2 with
      | none => simp [hf, lookup, ih hrest, habsent]
      | some value => simp [hf, lookup]
    · cases hf : f head.1 head.2 with
      | none => simp [hf, lookup, ih hrest, hkey]
      | some value => simp [hf, lookup, ih hrest, hkey]

theorem get?_filterMap (f : String → α → Option β) (fields : Fields α) (key : String) :
    (fields.filterMap f).get? key = (fields.get? key).bind (f key) :=
  lookup_filterMap f key fields.ascending

theorem get?_filter (keep : String → α → Bool) (fields : Fields α) (key : String) :
    (fields.filter keep).get? key = (fields.get? key).filter (keep key) := by
  refine Option.ext fun value => ?_
  rw [get?_eq_some_iff, Option.filter_eq_some_iff, get?_eq_some_iff]
  exact List.mem_filter

theorem get?_map (f : α → β) (fields : Fields α) (key : String) :
    (fields.map f).get? key = (fields.get? key).map f := by
  suffices h : ∀ l : List (String × α),
      lookup key (l.map fun entry => (entry.1, f entry.2)) = (lookup key l).map f from
    h fields.entries
  intro l
  induction l with
  | nil => rfl
  | cons head rest ih => by_cases h : head.1 = key <;> simp [lookup, h, ih]

/-- The value of the last entry with the key. -/
def lastWith (key : String) (entries : List (String × α)) : Option α :=
  (entries.reverse.find? fun entry => entry.1 == key).map (·.2)

theorem lastWith_eq_none_iff {key : String} {entries : List (String × α)} :
    lastWith key entries = none ↔ ∀ entry ∈ entries, entry.1 ≠ key := by
  simp only [lastWith, Option.map_eq_none_iff, List.find?_eq_none, List.mem_reverse, beq_iff_eq,
    ne_eq]

theorem get?_foldl_insert (entries : List (String × α)) (fields : Fields α) (key : String) :
    (entries.foldl (fun acc entry => acc.insert entry.1 entry.2) fields).get? key =
      (lastWith key entries).or (fields.get? key) := by
  induction entries generalizing fields with
  | nil => rfl
  | cons head rest ih =>
    rw [List.foldl_cons, ih, get?_insert, lastWith, lastWith, List.reverse_cons, List.find?_append]
    cases rest.reverse.find? fun entry => entry.1 == key with
    | some entry => rfl
    | none =>
      by_cases h : key = head.1
      · simp [h]
      · have hne : (head.1 == key) = false := beq_false_of_ne fun heq => h heq.symm
        simp [h, hne]

theorem get?_ofList (entries : List (String × α)) (key : String) :
    (ofList entries).get? key = lastWith key entries := by
  rw [ofList, get?_foldl_insert, get?_empty, Option.or_none]

theorem ofList_concat (entries : List (String × α)) (key : String) (value : α) :
    ofList (entries ++ [(key, value)]) = (ofList entries).insert key value := by
  rw [ofList, ofList, List.foldl_append]
  rfl

theorem lastWith_entries (fields : Fields α) (key : String) :
    lastWith key fields.entries = fields.get? key := by
  refine Option.ext fun value => ?_
  rw [get?_eq_some_iff, lastWith, Option.map_eq_some_iff]
  constructor
  · rintro ⟨entry, h, rfl⟩
    have hkey : entry.1 = key := by simpa using List.find?_some h
    exact hkey ▸ List.mem_reverse.mp (List.mem_of_find?_eq_some h)
  · intro h
    cases hfound : fields.entries.reverse.find? fun entry => entry.1 == key with
    | none =>
      have hother := List.find?_eq_none.mp hfound _ (List.mem_reverse.mpr h)
      exact absurd (beq_self_eq_true key) hother
    | some entry =>
      have hkey : entry.1 = key := by simpa using List.find?_some hfound
      have hmem := List.mem_reverse.mp (List.mem_of_find?_eq_some hfound)
      have hentry : fields.get? entry.1 = some entry.2 := get?_eq_some_iff.mpr hmem
      have hvalue := get?_eq_some_iff.mpr h
      rw [hkey] at hentry
      exact ⟨entry, rfl, Option.some.inj (hentry.symm.trans hvalue)⟩

theorem mem_of_get?_ofList {entries : List (String × α)} {key : String} {value : α}
    (h : (ofList entries).get? key = some value) : (key, value) ∈ entries := by
  rw [get?_ofList, lastWith, Option.map_eq_some_iff] at h
  obtain ⟨entry, hfound, rfl⟩ := h
  have hkey : entry.1 = key := by simpa using List.find?_some hfound
  exact hkey ▸ List.mem_reverse.mp (List.mem_of_find?_eq_some hfound)

theorem ofList_entries (fields : Fields α) : ofList fields.entries = fields := by
  apply ext_get?
  intro key
  rw [get?_ofList, lastWith_entries]

theorem get?_overlay (fields later : Fields α) (key : String) :
    (fields.overlay later).get? key = (later.get? key).or (fields.get? key) := by
  rw [overlay, get?_foldl_insert, lastWith_entries]

end ShippingRules.Fields
