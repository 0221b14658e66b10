import ShippingRules.Evaluator.Basic

/-!
Membership counts the distinct configured entries that are present. What the count says is said
here of the entries as they are configured, repeated or not.
-/
namespace ShippingRules.Evaluator

variable {configured : List String} {present : String → Bool}

theorem mem_ids_ofList {id : String} : id ∈ (IdSet.ofList configured).ids ↔ id ∈ configured :=
  IdSet.mem_ofList

theorem membership_anyInList_iff :
    membership (some .anyInList) configured present = true ↔
      ∃ id ∈ configured, present id = true := by
  simp only [membership, decide_eq_true_iff, List.length_pos_iff_exists_mem, List.mem_filter,
    mem_ids_ofList]

theorem membership_allInList_iff :
    membership (some .allInList) configured present = true ↔
      ∀ id ∈ configured, present id = true := by
  simp only [membership, beq_iff_eq, List.length_filter_eq_length_iff, mem_ids_ofList]

theorem membership_notInList_iff :
    membership (some .notInList) configured present = true ↔
      ∀ id ∈ configured, ¬present id = true := by
  simp only [membership, beq_iff_eq, List.length_eq_zero_iff, List.filter_eq_nil_iff,
    mem_ids_ofList]

theorem membership_eq_false {op : Option Operator}
    (h : ∀ legal ∈ Operator.setwise, op ≠ some legal) :
    membership op configured present = false := by
  cases op with
  | none => rfl
  | some op =>
    cases op
    case anyInList => exact absurd rfl (h .anyInList (by decide))
    case allInList => exact absurd rfl (h .allInList (by decide))
    case notInList => exact absurd rfl (h .notInList (by decide))
    all_goals rfl

/-- Some entry is present just when it is not true that none is. -/
theorem membership_anyInList_eq_not :
    membership (some .anyInList) configured present =
      !membership (some .notInList) configured present := by
  rw [Bool.eq_iff_iff, Bool.not_eq_true', Bool.eq_false_iff, ne_eq, membership_anyInList_iff,
    membership_notInList_iff]
  simp

theorem membership_anyInList_of_allInList {id : String} (hid : id ∈ configured)
    (h : membership (some .allInList) configured present = true) :
    membership (some .anyInList) configured present = true :=
  membership_anyInList_iff.mpr ⟨id, hid, membership_allInList_iff.mp h id hid⟩

/-- Only which entries there are counts, not their order and not how often they are repeated. -/
theorem membership_congr {other : List String} (h : ∀ id, id ∈ configured ↔ id ∈ other)
    (op : Option Operator) : membership op configured present = membership op other present := by
  by_cases hlegal : ∃ legal ∈ Operator.setwise, op = some legal
  · obtain ⟨legal, hmem, rfl⟩ := hlegal
    simp only [Operator.setwise, List.mem_cons, List.not_mem_nil, or_false] at hmem
    rw [Bool.eq_iff_iff]
    rcases hmem with rfl | rfl | rfl
    · simp only [membership_anyInList_iff, h]
    · simp only [membership_allInList_iff, h]
    · simp only [membership_notInList_iff, h]
  · have hnone : ∀ legal ∈ Operator.setwise, op ≠ some legal := fun legal hmem heq =>
      hlegal ⟨legal, hmem, heq⟩
    rw [membership_eq_false hnone, membership_eq_false hnone]

end ShippingRules.Evaluator
