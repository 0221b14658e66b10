import ShippingRules.Proofs.Evaluator.Membership
import ShippingRules.Proofs.Text.LowerCase

/-!
City lists entry by entry. A field of cities is lower-cased as a whole, then cut at its commas and
trimmed. That each entry may instead be trimmed and then lower-cased on its own, whatever stands
around it, follows from cutting and trimming both commuting with lower-casing.
-/
namespace ShippingRules.Evaluator

open Text

/-- The entries of a comma-separated field as they are written, in their own case. -/
def citiesAsWritten (field : String) : List (List Char) :=
  ((pieces ',' field.toList).map trimChars).filter (!·.isEmpty)

theorem mem_citiesAsWritten_iff {field : String} {entry : List Char} :
    entry ∈ citiesAsWritten field ↔
      ∃ piece ∈ pieces ',' field.toList, trimChars piece ≠ [] ∧ trimChars piece = entry := by
  simp only [citiesAsWritten, List.mem_filter, List.mem_map, Bool.not_eq_true',
    List.isEmpty_eq_false_iff]
  constructor
  · intro h
    obtain ⟨⟨piece, hmem, rfl⟩, hne⟩ := h
    exact ⟨piece, hmem, hne, rfl⟩
  · intro h
    obtain ⟨piece, hmem, hne, rfl⟩ := h
    exact ⟨⟨piece, hmem, rfl⟩, hne⟩

/-- The case of a field may be dropped first or last. -/
theorem configuredCities_eq (field : String) :
    configuredCities field = (citiesAsWritten field).map fun entry =>
      String.ofList (lowerChars entry) := by
  have htrim : trimChars ∘ lowerChars = lowerChars ∘ trimChars := funext trimChars_lowerChars
  have hblank : (fun entry : List Char => !entry.isEmpty) ∘ lowerChars =
      fun entry => !entry.isEmpty := by
    funext entry
    have hempty : (lowerChars entry).isEmpty = entry.isEmpty :=
      Bool.eq_iff_iff.mpr (by simp only [List.isEmpty_iff, lowerChars_eq_nil_iff])
    exact congrArg Bool.not hempty
  rw [configuredCities, citiesAsWritten, pieces_lowerChars, List.map_map, htrim, ← List.map_map,
    List.filter_map, hblank, List.map_map]
  rfl

/-- Some entry of the field is the city, but for case and the blanks around each. -/
def Listed (field city : String) : Prop :=
  ∃ piece ∈ pieces ',' field.toList, trimChars piece ≠ [] ∧
    lowerChars (trimChars piece) = lowerChars (trimChars city.toList)

theorem listed_iff {field city : String} :
    Listed field city ↔ ∃ entry ∈ configuredCities field, (entry == lower (trim city)) = true := by
  simp only [configuredCities_eq, List.mem_map, mem_citiesAsWritten_iff, beq_iff_eq, lower, trim,
    String.toList_ofList]
  constructor
  · intro h
    obtain ⟨piece, hmem, hne, hlower⟩ := h
    exact ⟨_, ⟨_, ⟨piece, hmem, hne, rfl⟩, rfl⟩, congrArg String.ofList hlower⟩
  · intro h
    obtain ⟨-, ⟨-, ⟨piece, hmem, hne, rfl⟩, rfl⟩, hlower⟩ := h
    exact ⟨piece, hmem, hne, String.ofList_injective hlower⟩

theorem not_listed_of_blank {field city : String} (h : trimChars city.toList = []) :
    ¬Listed field city := by
  intro hlisted
  obtain ⟨piece, -, hne, hlower⟩ := hlisted
  rw [h] at hlower
  exact hne (lowerChars_eq_nil_iff.mp hlower)

variable {kind : AddressKind} {rule : Rule} {snapshot : Snapshot}

theorem city_anyInList_iff :
    city kind { rule with operator := Operator.anyInList.name } snapshot = true ↔
      Listed (rule.text kind.citiesKey) (kind.address snapshot).city := by
  rw [city, rule.operator?_withOperator, membership_anyInList_iff, listed_iff]
  rfl

theorem city_notInList_iff :
    city kind { rule with operator := Operator.notInList.name } snapshot = true ↔
      ¬Listed (rule.text kind.citiesKey) (kind.address snapshot).city := by
  rw [city, rule.operator?_withOperator, membership_notInList_iff, listed_iff]
  simp only [not_exists, not_and]
  rfl

/-- What city rules answer, for any field, any customer and either address. Each entry is trimmed
and compared in lower case on its own, with the customer's city trimmed and in lower case; it is the
same as to lower-case the field before it is cut. A customer without a city is in no list. -/
theorem city_entrywise (kind : AddressKind) (rule : Rule) (snapshot : Snapshot) :
    let field := rule.text kind.citiesKey
    let own := (kind.address snapshot).city
    let answer (op : Operator) := city kind { rule with operator := op.name } snapshot
    (answer .anyInList = true ↔ Listed field own) ∧
      (answer .notInList = true ↔ ¬Listed field own) ∧
      configuredCities field =
        (citiesAsWritten field).map (fun entry => String.ofList (lowerChars entry)) ∧
      (trimChars own.toList = [] → answer .anyInList = false ∧ answer .notInList = true) := by
  intro field own answer
  refine ⟨city_anyInList_iff, city_notInList_iff, configuredCities_eq field, fun hblank => ?_⟩
  have hlisted : ¬Listed field own := not_listed_of_blank hblank
  refine ⟨Bool.eq_false_iff.mpr ?_, city_notInList_iff.mpr hlisted⟩
  exact fun hany => hlisted (city_anyInList_iff.mp hany)

/-- The entries are Argos in capitals, a blank piece, and Oslo. -/
def harbours : Rule :=
  { Rule.new "billing:city" "any_in_list" with
    params := .ofList [("billing_cities", .text "ΑΡΓΟΣ , ,Oslo"),
      ("shipping_cities", .text "ΑΡΓΟΣ , ,Oslo")] }

/-- A customer billed in Argos and without a city to ship to. -/
def argosCustomer : Customer := ⟨none, false, ⟨" Αργος", "GR"⟩, ⟨"\t ", "GR"⟩⟩

/-- The sigma at the end of a word is the final one in the field too. -/
theorem city_entrywise_harbours :
    let snapshot := Snapshot.ofFacts default [.customer argosCustomer]
    city .billing { harbours with operator := Operator.anyInList.name } snapshot = true ∧
      trimChars (AddressKind.shipping.address snapshot).city.toList = [] ∧
      city .shipping { harbours with operator := Operator.anyInList.name } snapshot = false := by
  intro snapshot
  obtain ⟨hany, -, -, -⟩ := city_entrywise .billing harbours snapshot
  have hlisted : Listed (harbours.text AddressKind.billing.citiesKey) argosCustomer.billing.city :=
    ⟨"ΑΡΓΟΣ ".toList, by decide +kernel, by decide +kernel, by decide +kernel⟩
  have hblank : trimChars (AddressKind.shipping.address snapshot).city.toList = [] := by
    decide +kernel
  obtain ⟨-, -, -, hnowhere⟩ := city_entrywise .shipping harbours snapshot
  exact ⟨hany.mpr hlisted, hblank, (hnowhere hblank).1⟩

end ShippingRules.Evaluator
