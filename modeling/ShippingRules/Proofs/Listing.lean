import ShippingRules.Proofs.Registration

/-!
How the rule types of a group are listed. Whatever was registered, in whatever order, a group lists
its types once each, by priority, and types of equal priority as they were registered. There is only
one such list.
-/
namespace ShippingRules

section Standing

variable {α : Type} {a b : α} {items : List α}

/-- Of two items in a list one stands before the other. -/
theorem pair_sublist_or (ha : a ∈ items) (hb : b ∈ items) (hne : a ≠ b) :
    [a, b].Sublist items ∨ [b, a].Sublist items := by
  obtain ⟨front, back, rfl⟩ := List.append_of_mem ha
  rcases List.mem_append.mp hb with hfront | hback
  · have hlast : [a].Sublist (a :: back) := (List.nil_sublist back).cons_cons a
    exact .inr ((List.singleton_sublist.mpr hfront).append hlast)
  · have hrest : b ∈ back := (List.mem_cons.mp hback).resolve_left hne.symm
    have hpair : [a, b].Sublist (a :: back) := (List.singleton_sublist.mpr hrest).cons_cons a
    exact .inl (hpair.trans (List.sublist_append_right front _))

theorem not_pair_sublist_swap (hitems : items.Nodup) (h : [a, b].Sublist items) :
    ¬[b, a].Sublist items := by
  induction items with
  | nil => cases h
  | cons head rest ih =>
    obtain ⟨hhead, hrest⟩ := List.nodup_cons.mp hitems
    intro hback
    cases h with
    | cons _ hpair =>
      cases hback with
      | cons _ hswapped => exact ih hrest hpair hswapped
      | cons_cons _ _ =>
        have hmem : b ∈ rest := hpair.subset (List.mem_cons_of_mem _ List.mem_cons_self)
        exact hhead hmem
    | cons_cons _ hlast =>
      cases hback with
      | cons _ hswapped =>
        have hmem : a ∈ rest := hswapped.subset (List.mem_cons_of_mem _ List.mem_cons_self)
        exact hhead hmem
      | cons_cons _ _ => exact hhead (List.singleton_sublist.mp hlast)

end Standing

namespace Catalog

/-- The list of a group's types, told from the types that were registered, in their order. -/
structure ListsGroup (registered : List RuleType) (group : String) (listed : List RuleType) :
    Prop where
  once : listed.Nodup
  mem_iff : ∀ type, type ∈ listed ↔ type ∈ registered ∧ type.group = group
  ascending : listed.Pairwise fun a b => a.priority ≤ b.priority
  ties : ∀ a b, [a, b].Sublist registered → a.group = group → b.group = group →
    a.priority = b.priority → [a, b].Sublist listed

variable {registered listed other : List RuleType} {group : String}

theorem nodup_types (catalog : Catalog) : catalog.types.items.Nodup :=
  (List.pairwise_map.mp catalog.types.distinct).imp fun hne heq => hne (congrArg RuleType.id heq)

theorem listsGroup_listByGroup (catalog : Catalog) (group : String) :
    ListsGroup catalog.types.items group (catalog.listByGroup group) := by
  have htrans : ∀ a b c : RuleType, decide (a.priority ≤ b.priority) = true →
      decide (b.priority ≤ c.priority) = true → decide (a.priority ≤ c.priority) = true := by
    simp only [decide_eq_true_eq]
    exact fun _ _ _ => Nat.le_trans
  have htotal : ∀ a b : RuleType,
      (decide (a.priority ≤ b.priority) || decide (b.priority ≤ a.priority)) = true := by
    simp only [Bool.or_eq_true, decide_eq_true_eq]
    exact fun a b => Nat.le_total a.priority b.priority
  have hperm := List.mergeSort_perm (catalog.types.items.filter fun type => type.group == group)
    fun a b => a.priority ≤ b.priority
  constructor
  · exact hperm.nodup_iff.mpr (catalog.nodup_types.filter _)
  · intro type
    rw [listByGroup, hperm.mem_iff, List.mem_filter, beq_iff_eq]
  · exact (List.pairwise_mergeSort htrans htotal _).imp of_decide_eq_true
  · intro a b hpair ha hb htie
    have hfiltered := hpair.filter fun type => type.group == group
    have hboth : [a, b].filter (fun type => type.group == group) = [a, b] := by simp [ha, hb]
    rw [hboth] at hfiltered
    exact List.pair_sublist_mergeSort htrans htotal (decide_eq_true (Nat.le_of_eq htie)) hfiltered

/-- What stands before what in the list of a group: of two types the one of lower priority, and of
equal ones the one that was registered before. -/
theorem ListsGroup.precedes (h : ListsGroup registered group listed) :
    listed.Pairwise fun a b =>
      a.priority < b.priority ∨ a.priority = b.priority ∧ [a, b].Sublist registered := by
  rw [List.pairwise_iff_forall_sublist]
  intro a b hpair
  have hle := List.pairwise_iff_forall_sublist.mp h.ascending hpair
  refine (Nat.lt_or_eq_of_le hle).imp_right fun htie => ⟨htie, ?_⟩
  have hne : a ≠ b := List.pairwise_iff_forall_sublist.mp h.once hpair
  obtain ⟨hamem, ha⟩ := (h.mem_iff a).mp (hpair.subset List.mem_cons_self)
  obtain ⟨hbmem, hb⟩ := (h.mem_iff b).mp (hpair.subset (List.mem_cons_of_mem _ List.mem_cons_self))
  refine (pair_sublist_or hamem hbmem hne).resolve_right fun hswapped => ?_
  exact not_pair_sublist_swap h.once hpair (h.ties b a hswapped hb ha htie.symm)

theorem ListsGroup.unique (hregistered : registered.Nodup) (h : ListsGroup registered group listed)
    (hother : ListsGroup registered group other) : listed = other := by
  have hperm : listed.Perm other := by
    refine (List.perm_ext_iff_of_nodup h.once hother.once).mpr fun type => ?_
    rw [h.mem_iff, hother.mem_iff]
  refine List.Perm.eq_of_pairwise ?_ h.precedes hother.precedes hperm
  intro a b _ _ hab hba
  rcases hab with hlt | ⟨htie, hpair⟩
  · rcases hba with hgt | ⟨htie, -⟩ <;> omega
  · rcases hba with hgt | ⟨-, hswapped⟩
    · omega
    · exact absurd hswapped (not_pair_sublist_swap hregistered hpair)

end Catalog

/-- After any calls, from any start, a group lists the types that were registered in it: each once
and no other, by priority, and where priorities are equal in the order of their registration. -/
theorem Registries.listByGroup_run (start : Registries) (calls : List Call) (group : String)
    (listed : List RuleType) :
    listed = (start.run calls).catalog.listByGroup group ↔
      Catalog.ListsGroup
        (start.catalog.types.items ++ (start.accepted calls).filterMap Call.type?)
        group listed := by
  have hlists := (start.run calls).catalog.listsGroup_listByGroup group
  have hdistinct := (start.run calls).catalog.nodup_types
  have hitems : (start.run calls).catalog.types.items =
      start.catalog.types.items ++ (start.accepted calls).filterMap Call.type? :=
    Shelf.types.items_run start calls
  rw [hitems] at hlists hdistinct
  constructor
  · rintro rfl
    exact hlists
  · intro h
    exact h.unique hdistinct hlists

end ShippingRules
