import Mathlib.Tactic.Choose
import ShippingRules.Proofs.Json.Structure
import ShippingRules.Proofs.Json.TextRoundTrip

/-!
Values that are written and read again. The text of a value has the same outcome wherever it stands
and however deep the reader may go. An array is read again item by item and an object field by
field, so a value that does not nest too deep comes back as it was if its numbers do.
-/
namespace ShippingRules.Json

/-- A field with the text of its value. -/
def memberText (write : Json → List Char) (field : String × Json) : List Char :=
  quoted field.1 ++ ':' :: write field.2

theorem moreItemsToChars_map (items : List Json) :
    Tree.moreItemsToChars (items.map (·.tree)) = items.flatMap fun item => ',' :: item.toChars := by
  induction items with
  | nil => rfl
  | cons head rest ih => simp [Tree.moreItemsToChars, ih, toChars]

theorem toChars_array (items : List Json) :
    (array items).toChars = '[' :: commaList toChars items ++ [']'] := by
  cases items with
  | nil => rfl
  | cons head rest =>
    simp [toChars, array, Tree.toChars, Tree.itemsToChars, moreItemsToChars_map, commaList]

theorem moreFieldsToChars_map (fields : List (String × Json)) :
    Tree.moreFieldsToChars (fields.map fun field => (field.1, field.2.tree)) =
      fields.flatMap fun field => ',' :: memberText toChars field := by
  induction fields with
  | nil => rfl
  | cons head rest ih => simp [Tree.moreFieldsToChars, ih, memberText, toChars]

theorem toChars_object (fields : Fields Json) :
    (object fields).toChars = '{' :: commaList (memberText toChars) fields.entries ++ ['}'] := by
  obtain ⟨entries, ascending⟩ := fields
  cases entries with
  | nil => rfl
  | cons head rest =>
    simp [toChars, object, Tree.toChars, Tree.fieldsToChars, moreFieldsToChars_map, commaList,
      memberText]

theorem isBlank_of_isDigit {c : Char} (h : c.isDigit = true) : isBlank c = false := by
  cases hblank : isBlank c with
  | false => rfl
  | true =>
    simp only [isBlank, decide_eq_true_eq] at hblank
    rcases hblank with rfl | rfl | rfl | rfl <;> exact absurd h (by decide)

theorem startsApart_number {c : Char} (hc : c = '-' ∨ c.isDigit = true) (tail : List Char) :
    StartsApart ']' (c :: tail) := by
  refine ⟨c, tail, rfl, ?_⟩
  rcases hc with rfl | hc
  · decide
  · refine ⟨isBlank_of_isDigit hc, ?_⟩
    rintro rfl
    exact absurd hc (by decide)

/-- No value starts with a blank or with the end of an array. -/
theorem startsApart_toChars (json : Json) : StartsApart ']' json.toChars := by
  cases json using induct with
  | null => exact ⟨'n', _, rfl, by decide, by decide⟩
  | bool b =>
    cases b with
    | true => exact ⟨'t', _, rfl, by decide, by decide⟩
    | false => exact ⟨'f', _, rfl, by decide, by decide⟩
  | number n =>
    obtain ⟨c, tail, htext, hc⟩ := head_toChars n
    have hnumber : (number n).toChars = c :: tail := htext
    rw [hnumber]
    exact startsApart_number hc tail
  | text s => exact ⟨'"', _, rfl, by decide, by decide⟩
  | array items => exact ⟨'[', _, toChars_array items, by decide, by decide⟩
  | object fields => exact ⟨'{', _, toChars_object fields, by decide, by decide⟩

theorem startsApart_memberText (write : Json → List Char) (field : String × Json) :
    StartsApart '}' (memberText write field) :=
  ⟨'"', _, rfl, by decide, by decide⟩

section Outcomes

variable {depth : Nat} {write : Json → List Char} {outcome : Json → Option Json}

theorem readAs_member {reader : Reader Json} {field : String × Json}
    (hstart : StartsApart ']' (write field.2))
    (h : ReadAs reader (write field.2) (outcome field.2)) :
    ReadAs (member reader) (memberText write field) ((outcome field.2).map (field.1, ·)) := by
  intro rest hrest
  obtain ⟨key, json⟩ := field
  obtain ⟨hquoted, hread⟩ := readText_quoted key (':' :: (write json ++ rest))
  have hblank := hstart.skipBlanks_append rest
  have hrun := h rest hrest
  have hcolon := skipBlanks_cons (c := ':') (by decide) (write json ++ rest)
  simp only [memberText, List.append_assoc, List.cons_append, hquoted]
  cases hout : outcome json <;> simp [member, expect, hread, hcolon, hblank, hrun, hout]

theorem closes_bracket : Closes ']' := ⟨by decide, by decide, by decide⟩

theorem closes_brace : Closes '}' := ⟨by decide, by decide, by decide⟩

theorem readAs_array {items : List Json} (hstart : ∀ item ∈ items, StartsApart ']' (write item))
    (h : ∀ item ∈ items, ReadAs (value depth) (write item) (outcome item)) :
    ReadAs (value (depth + 1)) ('[' :: commaList write items ++ [']'])
      ((items.mapM outcome).map array) := by
  intro rest _
  have hitems := readSequence_commaList closes_bracket rest items h hstart
  simp [value, readValue, readNested, hitems, Option.map_map, Function.comp_def]

theorem readAs_object {fields : Fields Json}
    (hstart : ∀ field ∈ fields.entries, StartsApart ']' (write field.2))
    (h : ∀ field ∈ fields.entries, ReadAs (value depth) (write field.2) (outcome field.2)) :
    ReadAs (value (depth + 1)) ('{' :: commaList (memberText write) fields.entries ++ ['}'])
      ((fields.entries.mapM fun field => (outcome field.2).map (field.1, ·)).map
        (object <| Fields.ofList ·)) := by
  intro rest _
  have hitems := readSequence_commaList closes_brace rest fields.entries
    (fun field hfield => readAs_member (hstart field hfield) (h field hfield))
    fun field _ => startsApart_memberText write field
  simp [value, readValue, readNested, hitems, Option.map_map, Function.comp_def]

theorem readAs_null (depth : Nat) : ReadAs (value depth) null.toChars (some null) := by
  intro rest _
  cases depth <;> simp [value, readValue, toChars, null, Tree.toChars, expect]

theorem readAs_bool (depth : Nat) (b : Bool) :
    ReadAs (value depth) (bool b).toChars (some (bool b)) := by
  intro rest _
  cases depth <;> cases b <;> simp [value, readValue, toChars, bool, Tree.toChars, expect]

theorem readAs_text (depth : Nat) (s : String) :
    ReadAs (value depth) (text s).toChars (some (text s)) := by
  intro rest _
  obtain ⟨hquoted, hread⟩ := readText_quoted s rest
  have htext : (text s).toChars = quoted s := rfl
  rw [htext, hquoted]
  cases depth <;> simp [value, readValue, hread]

theorem readAs_number (depth : Nat) {c : Char} {tail : List Char} {out : Option Number}
    (hc : c = '-' ∨ c.isDigit = true)
    (h : ∀ rest, EndsNumber rest → readNumber (c :: tail ++ rest) = out.map (·, rest)) :
    ReadAs (value depth) (c :: tail) (out.map number) := by
  intro rest hrest
  have hread := h rest hrest
  have hne : ∀ d : Char, d.isDigit = false → d ≠ '-' → c ≠ d := by
    rintro d hd hminus rfl
    rcases hc with rfl | hc
    · exact hminus rfl
    · exact absurd hc (by simp [hd])
  rw [List.cons_append] at hread ⊢
  cases depth <;>
    simp [value, readValue, hread, hne 'n' (by decide) (by decide), hne 't' (by decide) (by decide),
      hne 'f' (by decide) (by decide), hne '"' (by decide) (by decide),
      hne '[' (by decide) (by decide), hne '{' (by decide) (by decide), Option.map_map,
      Function.comp_def]

end Outcomes

/-- The text of a value has one outcome for all readers that go deep enough. -/
theorem exists_readAs (json : Json) :
    ∃ outcome, ∀ depth, json.nesting ≤ depth → ReadAs (value depth) json.toChars outcome := by
  induction json using induct with
  | null => exact ⟨_, fun depth _ => readAs_null depth⟩
  | bool b => exact ⟨_, fun depth _ => readAs_bool depth b⟩
  | number n =>
    obtain ⟨c, tail, htext, hc⟩ := head_toChars n
    have hnumber : (number n).toChars = c :: tail := htext
    rw [hnumber]
    exact ⟨_, fun depth _ => readAs_number depth hc fun rest hrest =>
      htext ▸ readNumber_toChars n hrest⟩
  | text s => exact ⟨_, fun depth _ => readAs_text depth s⟩
  | array items ih =>
    choose! outcome houtcome using ih
    refine ⟨(items.mapM outcome).map array, fun depth hdepth => ?_⟩
    cases depth with
    | zero => exact absurd hdepth (not_nesting_array_le_zero items)
    | succ depth =>
      have hitems := nesting_array_le_iff.mp hdepth
      rw [toChars_array]
      exact readAs_array (fun item _ => startsApart_toChars item) fun item hitem =>
        houtcome item hitem depth (hitems item hitem)
  | object fields ih =>
    have hvalues : ∀ json, (∃ key, fields.get? key = some json) → ∃ outcome, ∀ depth,
        json.nesting ≤ depth → ReadAs (value depth) json.toChars outcome := by
      rintro json ⟨key, hget⟩
      exact ih key json hget
    choose! outcome houtcome using hvalues
    refine ⟨(fields.entries.mapM fun field => (outcome field.2).map (field.1, ·)).map
      (object <| Fields.ofList ·), fun depth hdepth => ?_⟩
    cases depth with
    | zero => exact absurd hdepth (not_nesting_object_le_zero fields)
    | succ depth =>
      have hfields := nesting_object_le_iff.mp hdepth
      rw [toChars_object]
      refine readAs_object (fun field _ => startsApart_toChars field.2) fun field hfield => ?_
      have hget := Fields.get?_eq_some_iff.mpr hfield
      exact houtcome field.2 ⟨_, hget⟩ depth (hfields _ _ hget)

/-- A text that has one outcome wherever it stands has it on its own. -/
theorem parse?_of_readAs {s : List Char} {outcome : Option Json} (hstart : StartsApart ']' s)
    (h : ReadAs (value maxNesting) s outcome) : parse? (String.ofList s) = outcome := by
  have hblank := hstart.skipBlanks_append []
  have hrun := h [] endsNumber_nil
  rw [List.append_nil] at hblank hrun
  rw [parse?, String.toList_ofList, parseChars?, hblank, hrun]
  cases outcome <;> rfl

/-- What a value is read as once it has been written. -/
def reread (json : Json) : Option Json := parse? json.render

theorem reread_of_readAs {json : Json} {outcome : Option Json}
    (h : ReadAs (value maxNesting) json.toChars outcome) : json.reread = outcome :=
  parse?_of_readAs (startsApart_toChars json) h

/-- Where a value is read on its own, its text has that outcome everywhere. -/
theorem readAs_toChars {json : Json} (hmax : json.nesting ≤ maxNesting) {depth : Nat}
    (h : json.nesting ≤ depth) : ReadAs (value depth) json.toChars json.reread := by
  obtain ⟨outcome, houtcome⟩ := exists_readAs json
  rw [reread_of_readAs (houtcome maxNesting hmax)]
  exact houtcome depth h

theorem reread_null : null.reread = some null := reread_of_readAs (readAs_null _)

theorem reread_bool (b : Bool) : (bool b).reread = some (bool b) :=
  reread_of_readAs (readAs_bool _ b)

theorem reread_text (s : String) : (text s).reread = some (text s) :=
  reread_of_readAs (readAs_text _ s)

theorem reread_number (n : Number) : (number n).reread = n.reread.map number := by
  obtain ⟨c, tail, htext, hc⟩ := head_toChars n
  have hnumber : (number n).toChars = c :: tail := htext
  apply reread_of_readAs
  rw [hnumber]
  exact readAs_number _ hc fun rest hrest => htext ▸ readNumber_toChars n hrest

/-- A list of outcomes is there if each of them is. -/
theorem mapM_eq_some_iff {α β : Type} {f : α → Option β} {items : List α} {backs : List β} :
    items.mapM f = some backs ↔
      (∀ a ∈ items, (f a).isSome = true) ∧ backs = items.filterMap f := by
  induction items generalizing backs with
  | nil =>
    rw [List.mapM_nil, List.filterMap_nil]
    constructor
    · intro h
      cases h
      exact ⟨nofun, rfl⟩
    · rintro ⟨-, rfl⟩
      rfl
  | cons head rest ih =>
    cases hhead : f head with
    | none => simp [hhead]
    | some b =>
      simp only [List.mapM_cons, hhead, Option.bind_eq_bind, Option.bind_some,
        Option.bind_eq_some_iff, ih, List.forall_mem_cons, Option.isSome_some, true_and,
        List.filterMap_cons]
      constructor
      · rintro ⟨_, ⟨hrest, rfl⟩, hbacks⟩
        cases hbacks
        exact ⟨hrest, rfl⟩
      · rintro ⟨hrest, rfl⟩
        exact ⟨_, ⟨hrest, rfl⟩, rfl⟩

/-- An array is read again item by item. -/
theorem reread_array_eq_some_iff {items : List Json} (h : (array items).nesting ≤ maxNesting)
    {back : Json} :
    (array items).reread = some back ↔
      (∀ item ∈ items, item.reread.isSome = true) ∧ back = array (items.filterMap reread) := by
  have hitems : ∀ item ∈ items, item.nesting ≤ 126 := nesting_array_le_iff.mp h
  have hread : ReadAs (value maxNesting) (array items).toChars
      ((items.mapM reread).map array) := by
    rw [toChars_array]
    exact readAs_array (fun item _ => startsApart_toChars item) fun item hitem =>
      readAs_toChars (Nat.le_trans (hitems item hitem) (by decide)) (hitems item hitem)
  rw [reread_of_readAs hread, Option.map_eq_some_iff]
  constructor
  · rintro ⟨backs, hbacks, rfl⟩
    obtain ⟨hall, rfl⟩ := mapM_eq_some_iff.mp hbacks
    exact ⟨hall, rfl⟩
  · rintro ⟨hall, rfl⟩
    exact ⟨_, mapM_eq_some_iff.mpr ⟨hall, rfl⟩, rfl⟩

/-- An object is read again field by field. -/
theorem reread_object_eq_some_iff {fields : Fields Json}
    (h : (object fields).nesting ≤ maxNesting) {back : Json} :
    (object fields).reread = some back ↔
      (∀ key json, fields.get? key = some json → json.reread.isSome = true) ∧
        back = object (fields.filterMap fun _ => reread) := by
  have hfields : ∀ key value, fields.get? key = some value → value.nesting ≤ 126 :=
    nesting_object_le_iff.mp h
  have hread : ReadAs (value maxNesting) (object fields).toChars
      ((fields.entries.mapM fun field : String × Json => field.2.reread.map (field.1, ·)).map
        (object <| Fields.ofList ·)) := by
    rw [toChars_object]
    refine readAs_object (fun field _ => startsApart_toChars field.2) fun field hfield => ?_
    have hdepth := hfields _ _ (Fields.get?_eq_some_iff.mpr hfield)
    exact readAs_toChars (Nat.le_trans hdepth (by decide)) hdepth
  have hentries := Fields.ofList_entries (fields.filterMap fun _ => reread)
  rw [reread_of_readAs hread, Option.map_eq_some_iff]
  constructor
  · rintro ⟨backs, hbacks, rfl⟩
    obtain ⟨hall, rfl⟩ := mapM_eq_some_iff.mp hbacks
    refine ⟨fun key json hget => ?_, congrArg object hentries⟩
    have hsome := hall _ (Fields.get?_eq_some_iff.mp hget)
    rwa [Option.isSome_map] at hsome
  · rintro ⟨hall, rfl⟩
    refine ⟨_, mapM_eq_some_iff.mpr ⟨fun field hfield => ?_, rfl⟩, congrArg object hentries⟩
    rw [Option.isSome_map]
    exact hall _ _ (Fields.get?_eq_some_iff.mpr hfield)

end ShippingRules.Json
