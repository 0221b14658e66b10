import ShippingRules.Fields.Lemmas
import ShippingRules.Snapshot

/-!
The identifiers of a cart. The sets of a snapshot hold what some cart line has: its product and its
shipping class, unless the id stands for none, and its terms, each under the taxonomy of the term.
-/
namespace ShippingRules.Snapshot

theorem isPresent_iff {id : String} : isPresent id = true ↔ id ≠ "" ∧ id ≠ "0" := by
  rw [isPresent, decide_eq_true_iff]

theorem mem_addTerm_iff {terms : Fields IdSet} {term : String × String} {taxonomy id : String} :
    id ∈ ((addTerm terms term).get? taxonomy).getD .empty ↔
      (taxonomy, id) = term ∨ id ∈ (terms.get? taxonomy).getD .empty := by
  rw [addTerm, Fields.get?_insert]
  by_cases htaxonomy : taxonomy = term.1
  · subst htaxonomy
    rw [if_pos rfl, Option.getD_some, IdSet.mem_insert, Prod.ext_iff]
    exact or_congr_left (and_iff_right rfl).symm
  · rw [if_neg htaxonomy]
    exact (or_iff_right fun hterm => htaxonomy (congrArg Prod.fst hterm)).symm

theorem mem_foldl_addTerm_iff {added : List (String × String)} {terms : Fields IdSet}
    {taxonomy id : String} :
    id ∈ ((added.foldl addTerm terms).get? taxonomy).getD .empty ↔
      (taxonomy, id) ∈ added ∨ id ∈ (terms.get? taxonomy).getD .empty := by
  induction added generalizing terms with
  | nil => simp
  | cons term rest ih =>
    rw [List.foldl_cons, ih, mem_addTerm_iff, List.mem_cons]
    exact or_left_comm.trans or_assoc.symm

variable {now : Moment} {facts : List Fact} {id : String}

theorem mem_products_ofFacts :
    id ∈ (ofFacts now facts).products ↔
      (id ≠ "" ∧ id ≠ "0") ∧ ∃ line ∈ facts.filterMap Fact.line?, line.productId = id := by
  rw [ofFacts, IdSet.mem_ofList, List.mem_filter, isPresent_iff, List.mem_map]
  exact and_comm

theorem mem_shippingClasses_ofFacts :
    id ∈ (ofFacts now facts).shippingClasses ↔
      (id ≠ "" ∧ id ≠ "0") ∧ ∃ line ∈ facts.filterMap Fact.line?, line.shippingClass = some id := by
  rw [ofFacts, IdSet.mem_ofList, List.mem_filter, isPresent_iff, List.mem_filterMap]
  exact and_comm

theorem mem_termIds_ofFacts {taxonomy : String} :
    id ∈ (ofFacts now facts).termIds taxonomy ↔
      ∃ line ∈ facts.filterMap Fact.line?, (taxonomy, id) ∈ line.terms := by
  rw [termIds, ofFacts, mem_foldl_addTerm_iff, List.mem_flatMap]
  exact or_iff_left List.not_mem_nil

end ShippingRules.Snapshot
