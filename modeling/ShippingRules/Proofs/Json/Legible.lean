import Mathlib.Data.List.Basic
import ShippingRules.Proofs.Json.RoundTrip

/-!
The values that some text is read as. They are those that nest no deeper than the reader allows and
hold only legible numbers: what is read is built from such numbers, and from their texts a text of
the whole value can be put together. What is written can always be read again, and it comes back as
it was if and only if all its numbers do.
-/
namespace ShippingRules.Json

/-- Every number in a value is read back from its text. -/
def NumbersReadBack (json : Json) : Prop := ∀ n ∈ json.numbers, n.ReadsBack

instance (json : Json) : Decidable json.NumbersReadBack :=
  inferInstanceAs (Decidable (∀ n ∈ json.numbers, n.ReadsBack))

theorem numbersReadBack_array_iff {items : List Json} :
    (array items).NumbersReadBack ↔ ∀ item ∈ items, item.NumbersReadBack := by
  constructor
  · exact fun h item hitem n hn => h n (mem_numbers_array_iff.mpr ⟨item, hitem, hn⟩)
  · intro h n hn
    obtain ⟨item, hitem, hn⟩ := mem_numbers_array_iff.mp hn
    exact h item hitem n hn

theorem numbersReadBack_object_iff {fields : Fields Json} :
    (object fields).NumbersReadBack ↔
      ∀ key value, fields.get? key = some value → value.NumbersReadBack := by
  constructor
  · exact fun h key value hget n hn => h n (mem_numbers_object_iff.mpr ⟨key, value, hget, hn⟩)
  · intro h n hn
    obtain ⟨key, value, hget, hn⟩ := mem_numbers_object_iff.mp hn
    exact h key value hget n hn

theorem NumbersReadBack.insert {fields : Fields Json} {json : Json}
    (hfields : (object fields).NumbersReadBack) (hjson : json.NumbersReadBack) (key : String) :
    (object (fields.insert key json)).NumbersReadBack := fun n hn =>
  (mem_numbers_insert hn).elim (hjson n) (hfields n)

theorem numbersReadBack_text (s : String) : (text s).NumbersReadBack := fun _ hn =>
  absurd hn List.not_mem_nil

/-- What is written as a value that does not nest too deep is read as some value. -/
theorem isSome_reread {json : Json} (h : json.nesting ≤ maxNesting) :
    json.reread.isSome = true := by
  induction json using induct with
  | null => rw [reread_null, Option.isSome_some]
  | bool b => rw [reread_bool, Option.isSome_some]
  | number n => rw [reread_number, Option.isSome_map, Number.isSome_reread]
  | text s => rw [reread_text, Option.isSome_some]
  | array items ih =>
    refine Option.isSome_iff_exists.mpr
      ⟨_, (reread_array_eq_some_iff h).mpr ⟨fun item hitem => ?_, rfl⟩⟩
    exact ih item hitem (nesting_le_of_mem_array h item hitem)
  | object fields ih =>
    refine Option.isSome_iff_exists.mpr
      ⟨_, (reread_object_eq_some_iff h).mpr ⟨fun key value hget => ?_, rfl⟩⟩
    exact ih key value hget (nesting_le_of_get?_object h key value hget)

/-- A value whose numbers are read back is read back itself. -/
theorem NumbersReadBack.reread_eq {json : Json} (hnumbers : json.NumbersReadBack)
    (h : json.nesting ≤ maxNesting) : json.reread = some json := by
  induction json using induct with
  | null => exact reread_null
  | bool b => exact reread_bool b
  | number n =>
    have hn : n.reread = some n := hnumbers n (by simp [numbers_number])
    rw [reread_number, hn, Option.map_some]
  | text s => exact reread_text s
  | array items ih =>
    have hback : ∀ item ∈ items, item.reread = some item := fun item hitem =>
      ih item hitem (numbersReadBack_array_iff.mp hnumbers item hitem)
        (nesting_le_of_mem_array h item hitem)
    refine (reread_array_eq_some_iff h).mpr ⟨fun item hitem => ?_, congrArg array ?_⟩
    · rw [hback item hitem, Option.isSome_some]
    · rw [List.filterMap_congr hback, List.filterMap_some]
  | object fields ih =>
    have hback : ∀ key value, fields.get? key = some value → value.reread = some value :=
      fun key value hget => ih key value hget
        (numbersReadBack_object_iff.mp hnumbers key value hget)
        (nesting_le_of_get?_object h key value hget)
    refine (reread_object_eq_some_iff h).mpr ⟨fun key value hget => ?_, congrArg object ?_⟩
    · rw [hback key value hget, Option.isSome_some]
    · refine Fields.ext_get? fun key => ?_
      rw [Fields.get?_filterMap]
      cases hget : fields.get? key with
      | none => rfl
      | some value => exact (hback key value hget).symm

/-- A list that is its own list of outcomes has each item as its own outcome. -/
theorem eq_some_of_filterMap_eq {α : Type} {f : α → Option α} {items : List α}
    (hsome : ∀ a ∈ items, (f a).isSome = true) (h : items.filterMap f = items) :
    ∀ a ∈ items, f a = some a := by
  induction items with
  | nil => nofun
  | cons head rest ih =>
    obtain ⟨hhead, hrest⟩ := List.forall_mem_cons.mp hsome
    obtain ⟨back, hback⟩ := Option.isSome_iff_exists.mp hhead
    rw [List.filterMap_cons_some hback] at h
    obtain ⟨rfl, htail⟩ := List.cons.inj h
    exact List.forall_mem_cons.mpr ⟨hback, ih hrest htail⟩

/-- Only a value whose numbers are read back is read back itself. -/
theorem reread_eq_self_iff {json : Json} (h : json.nesting ≤ maxNesting) :
    json.reread = some json ↔ json.NumbersReadBack := by
  refine ⟨fun hback => ?_, fun hnumbers => hnumbers.reread_eq h⟩
  induction json using induct with
  | null => exact fun _ hn => absurd hn List.not_mem_nil
  | bool b => exact fun _ hn => absurd hn List.not_mem_nil
  | text s => exact numbersReadBack_text s
  | number n =>
    rw [reread_number, Option.map_eq_some_iff] at hback
    obtain ⟨m, hm, heq⟩ := hback
    cases congrArg view heq
    intro k hk
    rw [numbers_number, List.mem_singleton] at hk
    rw [hk, Number.ReadsBack, hm]
  | array items ih =>
    obtain ⟨hsome, heq⟩ := (reread_array_eq_some_iff h).mp hback
    have heach := eq_some_of_filterMap_eq hsome (array_injective heq).symm
    exact numbersReadBack_array_iff.mpr fun item hitem =>
      ih item hitem (nesting_le_of_mem_array h item hitem) (heach item hitem)
  | object fields ih =>
    obtain ⟨hsome, heq⟩ := (reread_object_eq_some_iff h).mp hback
    refine numbersReadBack_object_iff.mpr fun key value hget => ?_
    have heach : value.reread = some value := by
      have hfilter := Fields.get?_filterMap (fun _ => reread) fields key
      rw [← object_injective heq, hget] at hfilter
      exact hfilter.symm
    exact ih key value hget (nesting_le_of_get?_object h key value hget) heach

/-- The whole text of a value that does not nest too deep is read as that value, if its numbers
are read back. -/
theorem parse?_render {json : Json} (h : json.nesting ≤ maxNesting)
    (hnumbers : json.NumbersReadBack) : parse? json.render = some json :=
  hnumbers.reread_eq h

section Runs

theorem mem_of_readItems {α : Type} {item : Reader α} {close : Char} {s rest : List Char}
    {items : List α} (h : readItems item close s = some (items, rest)) :
    ∀ a ∈ items, ∃ front tail, item.run front = some (a, tail) := by
  fun_induction readItems item close s generalizing items with
  | case1 => cases h
  | case2 => cases h
  | case3 s a front hrun more hrest hlen ih =>
    obtain ⟨⟨tail, r⟩, htail, h⟩ := Option.map_eq_some_iff.mp h
    cases h
    intro b hb
    rcases List.mem_cons.mp hb with rfl | hb
    · exact ⟨_, _, hrun⟩
    · exact ih htail b hb
  | case4 s a front hrun more hrest =>
    cases h
    intro b hb
    cases List.mem_singleton.mp hb
    exact ⟨_, _, hrun⟩
  | case5 => cases h

theorem mem_of_readSequence {α : Type} {item : Reader α} {close : Char} {s rest : List Char}
    {items : List α} (h : readSequence item close s = some (items, rest)) :
    ∀ a ∈ items, ∃ front tail, item.run front = some (a, tail) := by
  unfold readSequence at h
  split at h
  · cases h
  · split at h
    · cases h
      intro a ha
      cases ha
    · exact mem_of_readItems h

/-- A property of values, by the depth that they may have, that the reader keeps up as it builds a
value from its parts. -/
structure Kept (motive : Nat → Json → Prop) : Prop where
  null (depth : Nat) : motive depth null
  bool (depth : Nat) (b : Bool) : motive depth (bool b)
  text (depth : Nat) (s : String) : motive depth (text s)
  number (depth : Nat) {n : Number} (legible : n.Legible) : motive depth (number n)
  array {depth : Nat} {items : List Json} (each : ∀ item ∈ items, motive depth item) :
    motive (depth + 1) (array items)
  object {depth : Nat} {fields : Fields Json}
    (each : ∀ key value, fields.get? key = some value → motive depth value) :
    motive (depth + 1) (object fields)

variable {motive : Nat → Json → Prop} {depth : Nat}

theorem Kept.of_readNested (h : Kept motive)
    (ih : ∀ s json rest, (value depth).run s = some (json, rest) → motive depth json)
    {c : Char} {s rest : List Char} {json : Json}
    (hread : readNested (some (value depth)) c s = some (json, rest)) :
    motive (depth + 1) json := by
  simp only [readNested, Option.bind_eq_bind, Option.bind_some] at hread
  split at hread
  · obtain ⟨⟨items, tail⟩, hitems, heq⟩ := Option.map_eq_some_iff.mp hread
    cases heq
    refine h.array fun item hitem => ?_
    obtain ⟨front, after, hrun⟩ := mem_of_readSequence hitems item hitem
    exact ih _ _ _ hrun
  · obtain ⟨⟨entries, tail⟩, hentries, heq⟩ := Option.map_eq_some_iff.mp hread
    cases heq
    refine h.object fun key json hget => ?_
    have hmem := Fields.mem_of_get?_ofList hget
    obtain ⟨front, after, hrun⟩ := mem_of_readSequence hentries _ hmem
    simp only [member, Option.bind_eq_bind, Option.bind_eq_some_iff] at hrun
    obtain ⟨_, _, _, _, _, _, ⟨found, left⟩, hfound, hpair⟩ := hrun
    cases hpair
    exact ih _ _ _ hfound

theorem Kept.of_readValue (h : Kept motive) {nested : Option (Reader Json)}
    (hnested : ∀ c s json rest, readNested nested c s = some (json, rest) → motive depth json)
    {s rest : List Char} {json : Json} (hread : readValue nested s = some (json, rest)) :
    motive depth json := by
  cases s with
  | nil => cases hread
  | cons c tail =>
    simp only [readValue] at hread
    split at hread
    · obtain ⟨_, -, heq⟩ := Option.map_eq_some_iff.mp hread
      cases heq
      exact h.null depth
    split at hread
    · obtain ⟨_, -, heq⟩ := Option.map_eq_some_iff.mp hread
      cases heq
      exact h.bool depth true
    split at hread
    · obtain ⟨_, -, heq⟩ := Option.map_eq_some_iff.mp hread
      cases heq
      exact h.bool depth false
    split at hread
    · obtain ⟨_, -, heq⟩ := Option.map_eq_some_iff.mp hread
      cases heq
      exact h.text depth _
    split at hread
    · exact hnested _ _ _ _ hread
    · obtain ⟨⟨n, left⟩, hnumber, heq⟩ := Option.map_eq_some_iff.mp hread
      cases heq
      exact h.number depth ⟨_, _, hnumber⟩

/-- What the reader keeps up holds of all that it reads. -/
theorem Kept.of_run (h : Kept motive) :
    ∀ s json rest, (value depth).run s = some (json, rest) → motive depth json := by
  induction depth with
  | zero =>
    intro s json rest hread
    refine h.of_readValue (fun c s json rest hnested => ?_) hread
    cases hnested
  | succ depth ih =>
    intro s json rest hread
    exact h.of_readValue (fun c s json rest => h.of_readNested ih) hread

theorem kept_nesting : Kept fun depth json => json.nesting ≤ depth where
  null _ := Nat.zero_le _
  bool _ _ := Nat.zero_le _
  text _ _ := Nat.zero_le _
  number _ _ _ := Nat.zero_le _
  array each := nesting_array_le_iff.mpr each
  object each := nesting_object_le_iff.mpr each

theorem kept_legible : Kept fun _ json => ∀ n ∈ json.numbers, n.Legible where
  null _ := fun _ hn => absurd hn List.not_mem_nil
  bool _ _ := fun _ hn => absurd hn List.not_mem_nil
  text _ _ := fun _ hn => absurd hn List.not_mem_nil
  number _ _ legible := by simpa [numbers_number] using legible
  array each := fun n hn =>
    have ⟨item, hitem, hn⟩ := mem_numbers_array_iff.mp hn
    each item hitem n hn
  object each := fun n hn =>
    have ⟨key, value, hget, hn⟩ := mem_numbers_object_iff.mp hn
    each key value hget n hn

end Runs

theorem exists_run_of_parse? {s : String} {json : Json} (h : parse? s = some json) :
    ∃ front rest, (value maxNesting).run front = some (json, rest) := by
  simp only [parse?, parseChars?, Option.bind_eq_bind, Option.bind_eq_some_iff] at h
  obtain ⟨⟨read, rest⟩, hrun, hread⟩ := h
  split at hread
  · cases hread
    exact ⟨_, _, hrun⟩
  · cases hread

theorem nesting_le_of_parse? {s : String} {json : Json} (h : parse? s = some json) :
    json.nesting ≤ maxNesting := by
  obtain ⟨front, rest, hrun⟩ := exists_run_of_parse? h
  exact kept_nesting.of_run _ _ _ hrun

theorem legible_of_parse? {s : String} {json : Json} (h : parse? s = some json) :
    ∀ n ∈ json.numbers, n.Legible := by
  obtain ⟨front, rest, hrun⟩ := exists_run_of_parse? h
  exact kept_legible.of_run _ _ _ hrun

/-- Being written and read makes no value deeper. -/
theorem nesting_le_of_reread {json back : Json} (h : json.nesting ≤ maxNesting)
    (hback : json.reread = some back) : back.nesting ≤ json.nesting := by
  have hrun := readAs_toChars h (Nat.le_refl json.nesting) [] endsNumber_nil
  rw [hback] at hrun
  exact kept_nesting.of_run _ _ _ hrun

/-- Only null is read as null again, and only a text as a text. -/
theorem eq_of_reread {json back : Json} (h : json.nesting ≤ maxNesting)
    (hback : json.reread = some back) (hflat : back = null ∨ ∃ s, back = text s) :
    json = back := by
  cases json using induct with
  | null => exact Option.some.inj (reread_null.symm.trans hback)
  | bool b => exact Option.some.inj ((reread_bool b).symm.trans hback)
  | text s => exact Option.some.inj ((reread_text s).symm.trans hback)
  | number n =>
    rw [reread_number, Option.map_eq_some_iff] at hback
    obtain ⟨m, -, rfl⟩ := hback
    rcases hflat with hnull | ⟨s, htext⟩
    · cases congrArg view hnull
    · cases congrArg view htext
  | array items =>
    obtain ⟨-, rfl⟩ := (reread_array_eq_some_iff h).mp hback
    rcases hflat with hnull | ⟨s, htext⟩
    · cases congrArg tree hnull
    · cases congrArg tree htext
  | object fields =>
    obtain ⟨-, rfl⟩ := (reread_object_eq_some_iff h).mp hback
    rcases hflat with hnull | ⟨s, htext⟩
    · cases congrArg tree hnull
    · cases congrArg tree htext

/-- Texts of the numbers in a value, put together, are a text of the value. -/
theorem exists_text {json : Json} (hlegible : ∀ n ∈ json.numbers, n.Legible) {depth : Nat}
    (h : json.nesting ≤ depth) :
    ∃ s, StartsApart ']' s ∧ ReadAs (value depth) s (some json) := by
  induction json using induct generalizing depth with
  | null => exact ⟨_, startsApart_toChars null, readAs_null depth⟩
  | bool b => exact ⟨_, startsApart_toChars (bool b), readAs_bool depth b⟩
  | text s => exact ⟨_, startsApart_toChars (text s), readAs_text depth s⟩
  | number n =>
    obtain ⟨c, tail, hc, hread⟩ := (hlegible n (by simp [numbers_number])).exists_text
    have hnumber : ReadAs (value depth) (c :: tail) ((some n).map number) :=
      readAs_number depth hc hread
    exact ⟨_, startsApart_number hc tail, hnumber⟩
  | array items ih =>
    cases depth with
    | zero => exact absurd h (not_nesting_array_le_zero items)
    | succ depth =>
      have hitems := nesting_array_le_iff.mp h
      have htexts : ∀ item ∈ items,
          ∃ s, StartsApart ']' s ∧ ReadAs (value depth) s (some item) := fun item hitem =>
        ih item hitem (fun n hn => hlegible n (mem_numbers_array_iff.mpr ⟨item, hitem, hn⟩))
          (hitems item hitem)
      choose! write hstart hread using htexts
      have harray := readAs_array hstart hread
      rw [mapM_eq_some_iff.mpr ⟨fun _ _ => rfl, (List.filterMap_some).symm⟩] at harray
      exact ⟨_, ⟨'[', _, rfl, by decide, by decide⟩, harray⟩
  | object fields ih =>
    cases depth with
    | zero => exact absurd h (not_nesting_object_le_zero fields)
    | succ depth =>
      have hfields := nesting_object_le_iff.mp h
      have htexts : ∀ value, (∃ key, fields.get? key = some value) →
          ∃ s, StartsApart ']' s ∧ ReadAs (Json.value depth) s (some value) := by
        rintro value ⟨key, hget⟩
        exact ih key value hget
          (fun n hn => hlegible n (mem_numbers_object_iff.mpr ⟨key, value, hget, hn⟩))
          (hfields key value hget)
      choose! write hwrite using htexts
      have hfield : ∀ field ∈ fields.entries, ∃ key, fields.get? key = some field.2 :=
        fun field hfield => ⟨field.1, Fields.get?_eq_some_iff.mpr hfield⟩
      have hobject := readAs_object
        (fun field hmem => (hwrite field.2 (hfield field hmem)).1)
        fun field hmem => (hwrite field.2 (hfield field hmem)).2
      have hentries : (fields.entries.mapM fun field : String × Json =>
          (some field.2).map (field.1, ·)) = some fields.entries :=
        mapM_eq_some_iff.mpr ⟨fun _ _ => rfl, (List.filterMap_some).symm⟩
      rw [hentries, Option.map_some, Fields.ofList_entries] at hobject
      exact ⟨_, ⟨'{', _, rfl, by decide, by decide⟩, hobject⟩

/-- The values that are read from some text. -/
theorem exists_parse?_iff {json : Json} :
    (∃ s, parse? s = some json) ↔
      json.nesting ≤ maxNesting ∧ ∀ n ∈ json.numbers, n.Legible := by
  constructor
  · rintro ⟨s, h⟩
    exact ⟨nesting_le_of_parse? h, legible_of_parse? h⟩
  · rintro ⟨hdepth, hlegible⟩
    obtain ⟨s, hstart, hread⟩ := exists_text hlegible hdepth
    exact ⟨String.ofList s, parse?_of_readAs hstart hread⟩

end ShippingRules.Json
