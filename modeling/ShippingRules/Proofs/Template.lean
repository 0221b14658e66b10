import ShippingRules.Fields.Lemmas
import ShippingRules.Template

/-!
Which default stands under a key: the last that is configured for it, and otherwise the built-in
one. The built-in defaults are blank, but for those of two choices.
-/
namespace ShippingRules

namespace Template

theorem insertAll_eq (template : Template) (entries : List (String × Value)) :
    template.insertAll entries =
      ⟨entries.foldl (fun acc entry => acc.insert entry.1 entry.2) template.defaults⟩ := by
  induction entries generalizing template with
  | nil => rfl
  | cons entry rest ih => exact ih (template.insert entry.1 entry.2)

theorem get?_insertAll (template : Template) (entries : List (String × Value)) (key : String) :
    (template.insertAll entries).get? key =
      (Fields.lastWith key entries).or (template.get? key) := by
  rw [insertAll_eq]
  exact Fields.get?_foldl_insert entries template.defaults key

theorem get?_insertAll_of_ne {template : Template} {entries : List (String × Value)} {key : String}
    (h : ∀ entry ∈ entries, entry.1 ≠ key) :
    (template.insertAll entries).get? key = template.get? key := by
  rw [get?_insertAll, Fields.lastWith_eq_none_iff.mpr h, Option.none_or]

theorem mem_of_get?_insertAll_empty {entries : List (String × Value)} {key : String} {value : Value}
    (h : (empty.insertAll entries).get? key = some value) : (key, value) ∈ entries := by
  rw [insertAll_eq] at h
  exact Fields.mem_of_get?_ofList h

/-- A built-in default is blank, or it is that of one of two choices. -/
theorem cases_of_builtin {taxonomies : List String} {key : String} {value : Value}
    (h : (builtin taxonomies).get? key = some value) :
    value = .text "" ∨ value = .list [] ∨ key = "cart_value_type" ∧ value = .text "in_cart" ∨
      key = "logged_in" ∧ value = .text "no" := by
  have hmem := mem_of_get?_insertAll_empty h
  simp only [List.mem_append, List.mem_map, Prod.mk.injEq] at hmem
  obtain ((⟨-, -, -, rfl⟩ | ⟨-, -, -, rfl⟩) | hrest) | ⟨-, -, -, rfl⟩ := hmem
  · exact .inl rfl
  · exact .inr (.inl rfl)
  · simp only [List.mem_cons, Prod.mk.injEq, List.not_mem_nil, or_false] at hrest
    obtain ⟨rfl, rfl⟩ | ⟨rfl, rfl⟩ | ⟨-, rfl⟩ := hrest
    · exact .inr (.inr (.inl ⟨rfl, rfl⟩))
    · exact .inr (.inr (.inr ⟨rfl, rfl⟩))
    · exact .inr (.inl rfl)
  · exact .inr (.inl rfl)

theorem asList_of_builtin {taxonomies : List String} {key : String} {value : Value}
    (h : (builtin taxonomies).get? key = some value) : value.asList = [] := by
  obtain rfl | rfl | ⟨-, rfl⟩ | ⟨-, rfl⟩ := cases_of_builtin h
  · rfl
  · rfl
  · rfl
  · rfl

end Template

end ShippingRules
