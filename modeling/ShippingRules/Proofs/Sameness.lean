import Mathlib.Data.List.Forall2
import ShippingRules.Fields.Lemmas
import ShippingRules.Proofs.Number.Comparison
import ShippingRules.RuleSet

/-!
Equality as numbers compare, beside equality. A rule set without NaN is the same as itself. What
is the same has the same keys, and under each key values of one shape; only zeros and, in
parameters, NaN tell the two equalities apart.
-/
namespace ShippingRules

namespace Fields

variable {α : Type} {sameValue : α → α → Bool}

theorem all_zip_self {entries : List (String × α)}
    (h : ∀ entry ∈ entries, sameValue entry.2 entry.2 = true) :
    (entries.zip entries).all (fun pair => sameValue pair.1.2 pair.2.2) = true := by
  induction entries with
  | nil => rfl
  | cons head rest ih =>
    rw [List.zip_cons_cons, List.all_cons, h head List.mem_cons_self,
      ih fun entry hentry => h entry (List.mem_cons_of_mem _ hentry)]
    rfl

theorem same_self {fields : Fields α}
    (h : ∀ key value, fields.get? key = some value → sameValue value value = true) :
    fields.same sameValue fields = true := by
  unfold same
  rw [beq_self_eq_true, Bool.true_and]
  apply all_zip_self
  intro entry hentry
  exact h entry.1 entry.2 (get?_eq_some_iff.mpr hentry)

theorem exists_lookup_of_same {key : String} {value : α} {as bs : List (String × α)}
    (hkeys : as.map (·.1) = bs.map (·.1))
    (hvalues : (as.zip bs).all (fun pair => sameValue pair.1.2 pair.2.2) = true)
    (h : lookup key as = some value) :
    ∃ other, lookup key bs = some other ∧ sameValue value other = true := by
  induction as generalizing bs with
  | nil => cases h
  | cons a as ih =>
    cases bs with
    | nil => cases hkeys
    | cons b bs =>
      obtain ⟨hkey, hrest⟩ := List.cons.inj hkeys
      rw [List.zip_cons_cons, List.all_cons, Bool.and_eq_true] at hvalues
      simp only [lookup] at h ⊢
      by_cases hfound : a.1 = key
      · rw [if_pos hfound] at h
        cases h
        rw [if_pos (hkey.symm.trans hfound)]
        exact ⟨b.2, rfl, hvalues.1⟩
      · rw [if_neg hfound] at h
        rw [if_neg fun hcon => hfound (hkey.trans hcon)]
        exact ih hrest hvalues.2 h

variable {a b : Fields α}

theorem keys_of_same (h : a.same sameValue b = true) : a.keys = b.keys := by
  unfold same at h
  rw [Bool.and_eq_true] at h
  exact eq_of_beq h.1

theorem contains_of_same (h : a.same sameValue b = true) (key : String) :
    a.contains key = b.contains key := by
  rw [Bool.eq_iff_iff, contains_iff, contains_iff, keys_of_same h]

theorem exists_of_same (h : a.same sameValue b = true) {key : String} {value : α}
    (hget : b.get? key = some value) :
    ∃ other, a.get? key = some other ∧ sameValue other value = true := by
  have hcontains : b.contains key = true := contains_iff_exists.mpr ⟨value, hget⟩
  rw [← contains_of_same h] at hcontains
  obtain ⟨other, hother⟩ := contains_iff_exists.mp hcontains
  have hvalues := h
  unfold same at hvalues
  rw [Bool.and_eq_true] at hvalues
  obtain ⟨found, hfound, hsame⟩ := exists_lookup_of_same (keys_of_same h) hvalues.2 hother
  cases hfound.symm.trans hget
  exact ⟨other, hother, hsame⟩

end Fields

namespace Json

theorem Number.same_self (n : Number) : n.same n = true := by
  cases n with
  | whole value fits => exact beq_self_eq_true value
  | double value finite => exact Double.same_self (Double.isNaN_of_isFinite finite)

mutual

theorem Tree.same_self : ∀ tree : Tree, tree.same tree = true
  | .null => rfl
  | .bool b => beq_self_eq_true b
  | .number n => n.same_self
  | .text s => beq_self_eq_true s
  | .array items => Tree.sameItems_self items
  | .object fields => Tree.sameFields_self fields

theorem Tree.sameItems_self : ∀ items : List Tree, Tree.sameItems items items = true
  | [] => rfl
  | head :: rest => by
    rw [Tree.sameItems, Tree.same_self head, Tree.sameItems_self rest]
    rfl

theorem Tree.sameFields_self : ∀ fields : List (String × Tree), Tree.sameFields fields fields = true
  | [] => rfl
  | (key, head) :: rest => by
    rw [Tree.sameFields, Tree.same_self head, Tree.sameFields_self rest, beq_self_eq_true]
    rfl

end

theorem same_self (json : Json) : json.same json = true := json.tree.same_self

/-- Views of one shape, with the same texts and flags. -/
def View.Alike : View → View → Prop
  | .null, .null => True
  | .bool a, .bool b => a = b
  | .number _, .number _ => True
  | .text s, .text t => s = t
  | .array as, .array bs => List.Forall₂ (fun a b => a.same b = true) as bs
  | .object _, .object _ => True
  | _, _ => False

theorem forall₂_of_sameItems {as bs : List Json}
    (h : Tree.sameItems (as.map (·.tree)) (bs.map (·.tree)) = true) :
    List.Forall₂ (fun a b => a.same b = true) as bs := by
  induction as generalizing bs with
  | nil =>
    cases bs with
    | nil => exact .nil
    | cons b bs => cases h
  | cons a as ih =>
    cases bs with
    | nil => cases h
    | cons b bs =>
      rw [List.map_cons, List.map_cons, Tree.sameItems, Bool.and_eq_true] at h
      exact .cons h.1 (ih h.2)

theorem alike_of_same {a b : Json} (h : a.same b = true) : a.view.Alike b.view := by
  obtain ⟨va, rfl⟩ : ∃ view, a = ofView view := ⟨a.view, (ofView_view a).symm⟩
  obtain ⟨vb, rfl⟩ : ∃ view, b = ofView view := ⟨b.view, (ofView_view b).symm⟩
  rw [view_ofView, view_ofView]
  cases va with
  | null => cases vb <;> trivial
  | bool x => cases vb <;> first | exact eq_of_beq h | cases h
  | number n => cases vb <;> trivial
  | text s => cases vb <;> first | exact eq_of_beq h | cases h
  | array items => cases vb <;> first | exact forall₂_of_sameItems h | cases h
  | object fields => cases vb <;> trivial

end Json

theorem Value.same_self {value : Value} (h : ∀ x, value = .number x → x.isNaN = false) :
    value.same value = true := by
  cases value with
  | number x => exact Double.same_self (h x rfl)
  | _ => exact decide_eq_true rfl

theorem Rule.same_self {rule : Rule}
    (h : ∀ key x, rule.params.get? key = some (.number x) → x.isNaN = false) :
    rule.same rule = true := by
  have hparams : rule.params.same Value.same rule.params = true := by
    refine Fields.same_self fun key value hget => Value.same_self fun x hx => ?_
    exact h key x (hx ▸ hget)
  have hextra : rule.extra.same Json.same rule.extra = true :=
    Fields.same_self fun _ json _ => json.same_self
  rw [same, beq_self_eq_true, beq_self_eq_true, hparams, hextra]
  rfl

namespace RuleSet

theorem sameRules_self {rules : List Rule} (h : ∀ rule ∈ rules, rule.same rule = true) :
    sameRules rules rules = true := by
  induction rules with
  | nil => rfl
  | cons head rest ih =>
    rw [sameRules, h head List.mem_cons_self,
      ih fun rule hrule => h rule (List.mem_cons_of_mem _ hrule)]
    rfl

/-- A set without NaN among its parameters is the same as itself. -/
theorem same_self {set : RuleSet} (h : ∀ rule ∈ set.rules, ∀ key x,
    rule.params.get? key = some (.number x) → x.isNaN = false) : set.same set = true := by
  have hrules := sameRules_self fun rule hrule => Rule.same_self (h rule hrule)
  have hmode : sameMode set.unrecognizedMode set.unrecognizedMode = true := by
    cases set.unrecognizedMode with
    | none => rfl
    | some json => exact json.same_self
  have hextra : set.extra.same Json.same set.extra = true :=
    Fields.same_self fun _ json _ => json.same_self
  simp only [same, hrules, hmode, hextra, beq_self_eq_true, Bool.and_self]

end RuleSet

end ShippingRules
