import ShippingRules.Proofs.Evaluator.Membership
import ShippingRules.Proofs.Text.LowerCase

/-!
The evaluators of lists as one family. They differ in where the entries of a rule stand, which of
them count, what an entry is looked up as, and what the snapshot has; each of them is a membership
test on the keys of its entries. So what holds of membership tests holds of all: two operators are
opposite, all implies any, and the entries count as a set.
-/
namespace ShippingRules.Evaluator

/-- The evaluators whose answer is a membership test. -/
inductive ListFamily where
  | coupons
  | weeklyDays
  | users
  | city (kind : AddressKind)
  | country (kind : AddressKind)
  | cartItems (dimension : Dimension)

namespace ListFamily

def evaluator : ListFamily → Evaluator
  | coupons => Evaluator.coupons
  | weeklyDays => Evaluator.weeklyDays
  | users => Evaluator.users
  | city kind => Evaluator.city kind
  | country kind => Evaluator.country kind
  | cartItems dimension => Evaluator.cartItems dimension

/-- The entries as they are configured: the items of a list parameter, or the pieces between the
commas of a city text. -/
def entries (family : ListFamily) (rule : Rule) : List String :=
  match family with
  | coupons => rule.list "coupons"
  | weeklyDays => rule.list "weekly_days"
  | users => rule.list "users"
  | city kind => (Text.pieces ',' (rule.text kind.citiesKey).toList).map String.ofList
  | country kind => rule.list kind.countriesKey
  | cartItems dimension => rule.list dimension.paramKey

/-- A blank piece of a city text is no entry. -/
def counts (family : ListFamily) (entry : String) : Bool :=
  match family with
  | city _ => !(Text.trimChars entry.toList).isEmpty
  | _ => true

/-- What an entry is looked up as. -/
def key (family : ListFamily) (snapshot : Snapshot) (entry : String) : String :=
  match family with
  | coupons => couponCode snapshot entry
  | city _ => Text.trim (Text.lower entry)
  | _ => entry

/-- Whether the snapshot has a key. -/
def present (family : ListFamily) (snapshot : Snapshot) (key : String) : Bool :=
  match family with
  | coupons => snapshot.coupons.contains key
  | weeklyDays => sameAscii (Text.trimChars key.toList) snapshot.now.date.weekday.name.toList
  | users => snapshot.customer.id == some key
  | city kind => key == Text.lower (Text.trim (kind.address snapshot).city)
  | country kind => key == (kind.address snapshot).country
  | cartItems dimension => (snapshot.dimension dimension).contains key

/-- Coupon rules never match a cart without coupons, whatever the operator. -/
def silent (family : ListFamily) (snapshot : Snapshot) : Bool :=
  match family with
  | coupons => snapshot.coupons.isEmpty
  | _ => false

def keys (family : ListFamily) (rule : Rule) (snapshot : Snapshot) : List String :=
  ((family.entries rule).filter family.counts).map (family.key snapshot)

theorem keys_eq_entries {family : ListFamily} {snapshot : Snapshot} (rule : Rule)
    (hcounts : ∀ entry, family.counts entry = true)
    (hkey : ∀ entry, family.key snapshot entry = entry) :
    family.keys rule snapshot = family.entries rule := by
  rw [keys, List.filter_eq_self.mpr fun entry _ => hcounts entry, List.map_id'' hkey]

/-- Whether a piece is blank may be seen before it is lower-cased. -/
theorem keys_city (kind : AddressKind) (rule : Rule) (snapshot : Snapshot) :
    (city kind).keys rule snapshot = configuredCities (rule.text kind.citiesKey) := by
  have hcounts : (fun s : List Char => !s.isEmpty) ∘ Text.trimChars ∘ Text.lowerChars =
      (city kind).counts ∘ String.ofList := by
    funext piece
    simp only [Function.comp_apply, counts, String.toList_ofList]
    rw [Bool.eq_iff_iff]
    simp only [Bool.not_eq_true', List.isEmpty_eq_false_iff, ne_eq,
      Text.trimChars_lowerChars_eq_nil_iff]
  have hkey : String.ofList ∘ Text.trimChars ∘ Text.lowerChars =
      (city kind).key snapshot ∘ String.ofList := by
    funext piece
    simp only [Function.comp_apply, key, Text.trim, Text.lower, String.toList_ofList]
  rw [keys, entries, configuredCities, Text.pieces_lowerChars, List.map_map, List.filter_map,
    List.filter_map, List.map_map, List.map_map, hcounts, hkey]

theorem evaluator_eq_membership (family : ListFamily) (rule : Rule) (snapshot : Snapshot) :
    family.evaluator rule snapshot = (!family.silent snapshot &&
      membership rule.operator? (family.keys rule snapshot) (family.present snapshot)) := by
  cases family with
  | coupons =>
    have hcounts : (coupons.entries rule).filter coupons.counts = coupons.entries rule :=
      List.filter_eq_self.mpr fun _ _ => rfl
    rw [keys, hcounts]
    rfl
  | city kind =>
    rw [keys_city]
    rfl
  | weeklyDays | users | country kind | cartItems dimension =>
    rw [keys_eq_entries rule (fun _ => rfl) (fun _ => rfl)]
    rfl

/-- The rule as it is, but for another operator. -/
theorem evaluator_withOperator (family : ListFamily) (rule : Rule) (op : String)
    (snapshot : Snapshot) :
    family.evaluator { rule with operator := op } snapshot = (!family.silent snapshot &&
      membership (Operator.ofName? op) (family.keys rule snapshot) (family.present snapshot)) := by
  rw [evaluator_eq_membership]
  cases family
  all_goals rfl

theorem mem_keys_congr {family : ListFamily} {rule other : Rule} (snapshot : Snapshot)
    (h : ∀ entry, entry ∈ family.entries other ↔ entry ∈ family.entries rule) (id : String) :
    id ∈ family.keys other snapshot ↔ id ∈ family.keys rule snapshot := by
  simp only [keys, List.mem_map, List.mem_filter, h]

/-- A text that is the name of none of the three is read as none of them. -/
theorem ofName?_ne_some {op : String} (hany : op ≠ "any_in_list") (hall : op ≠ "all_in_list")
    (hnot : op ≠ "not_in_list") : ∀ legal ∈ Operator.setwise, Operator.ofName? op ≠ some legal := by
  intro legal hmem hname
  have hop := (Operator.ofName?_eq_some_iff op legal).mp hname
  simp only [Operator.setwise, List.mem_cons, List.not_mem_nil, or_false] at hmem
  rcases hmem with rfl | rfl | rfl
  · exact hany hop.symm
  · exact hall hop.symm
  · exact hnot hop.symm

/-- What the evaluators of lists have in common, for any rule and any snapshot. Coupon rules are
silent on a cart without coupons; apart from that one entry present and none present are opposite
answers. No operator but three has a match. If some entry counts and all are present, then one is.
And the answer is that of any rule with the same operator that has the same entries in some order,
repeated or not. -/
theorem evaluator_as_set (family : ListFamily) (rule : Rule) (snapshot : Snapshot) :
    let answer (op : String) := family.evaluator { rule with operator := op } snapshot
    (family.silent snapshot = true → ∀ op, answer op = false) ∧
      (family.silent snapshot = false → answer "any_in_list" = !answer "not_in_list") ∧
      (∀ op, op ≠ "any_in_list" → op ≠ "all_in_list" → op ≠ "not_in_list" → answer op = false) ∧
      ((∃ entry ∈ family.entries rule, family.counts entry = true) →
        answer "all_in_list" = true → answer "any_in_list" = true) ∧
      ∀ other : Rule, other.operator = rule.operator →
        (∀ entry, entry ∈ family.entries other ↔ entry ∈ family.entries rule) →
          family.evaluator other snapshot = family.evaluator rule snapshot := by
  have hanyName : Operator.ofName? "any_in_list" = some .anyInList :=
    Operator.ofName?_name .anyInList
  have hallName : Operator.ofName? "all_in_list" = some .allInList :=
    Operator.ofName?_name .allInList
  have hnotName : Operator.ofName? "not_in_list" = some .notInList :=
    Operator.ofName?_name .notInList
  simp only [evaluator_withOperator, hanyName, hallName, hnotName]
  refine ⟨fun hsilent op => ?_, fun hsilent => ?_, fun op hany hall hnot => ?_, ?_, ?_⟩
  · rw [hsilent]
    rfl
  · rw [hsilent]
    exact membership_anyInList_eq_not
  · rw [membership_eq_false (ofName?_ne_some hany hall hnot), Bool.and_false]
  · rintro ⟨entry, hentry, hcounts⟩ hanswer
    obtain ⟨hloud, hall⟩ := (Bool.and_eq_true _ _).mp hanswer
    have hkey : family.key snapshot entry ∈ family.keys rule snapshot :=
      List.mem_map.mpr ⟨entry, List.mem_filter.mpr ⟨hentry, hcounts⟩, rfl⟩
    rw [hloud, membership_anyInList_of_allInList hkey hall]
    rfl
  · intro other hoperator hentries
    have hop : other.operator? = rule.operator? := congrArg Operator.ofName? hoperator
    rw [evaluator_eq_membership, evaluator_eq_membership, hop,
      membership_congr (mem_keys_congr snapshot hentries)]

end ListFamily

end ShippingRules.Evaluator
