import Mathlib.Data.List.Forall2
import ShippingRules.Cache.Payload
import ShippingRules.Fields.Lemmas

/-!
What it takes for a payload to be converted, part by part: each of its parameters holds a value,
the keys of each rule ascend, and the texts of kept fields are objects. Ascending keys are all
different, so the parameters of a rule are the entries of its payload one by one.
-/
namespace ShippingRules

theorem Fields.entries_ofList {α : Type} {entries : List (String × α)}
    (h : entries.Pairwise fun a b => a.1 < b.1) : (ofList entries).entries = entries :=
  congrArg Fields.entries (ofList_entries ⟨entries, h⟩)

namespace Cache

/-- A cached parameter and the value that it stands for. An instant may be cached as any of its
literals. -/
inductive CachedValue.Holds : CachedValue → Value → Prop
  | number (x : Double) : Holds (.number x) (.number x)
  | text (s : String) : Holds (.text s) (.text s)
  | list (items : List String) : Holds (.list items) (.list items)
  | instant {literal : String} {t : Temporal} (read : Temporal.parse? literal = some t) :
      Holds (.instant literal) (.temporal t)
  | bool (b : Bool) : Holds (.bool b) (.bool b)

/-- Cached parameters and the entries that they stand for, one by one. -/
def HoldsEach (cached : List (String × CachedValue)) (entries : List (String × Value)) : Prop :=
  List.Forall₂ (fun c e => c.1 = e.1 ∧ c.2.Holds e.2) cached entries

theorem toValue_eq_ok_iff {cached : CachedValue} {value : Value} :
    cached.toValue = .ok value ↔ cached.Holds value := by
  constructor
  · intro h
    cases cached with
    | number x =>
      cases h
      exact .number x
    | text s =>
      cases h
      exact .text s
    | list items =>
      cases h
      exact .list items
    | instant literal =>
      simp only [CachedValue.toValue] at h
      split at h
      · rename_i hread
        cases h
        exact .instant hread
      · cases h
    | bool b =>
      cases h
      exact .bool b
  · intro h
    cases h with
    | instant hread => simp only [CachedValue.toValue, hread]
    | _ => rfl

theorem paramsOf_eq_ok_iff {cached : List (String × CachedValue)}
    {entries : List (String × Value)} :
    paramsOf cached = .ok entries ↔ HoldsEach cached entries := by
  induction cached generalizing entries with
  | nil =>
    rw [HoldsEach, List.forall₂_nil_left_iff, paramsOf, Except.ok.injEq]
    exact eq_comm
  | cons head rest ih =>
    rw [HoldsEach, List.forall₂_cons_left_iff]
    constructor
    · intro h
      unfold paramsOf at h
      split at h
      · cases h
      · rename_i value hvalue
        split at h
        · cases h
        · rename_i tail htail
          cases h
          exact ⟨_, tail, ⟨rfl, toValue_eq_ok_iff.mp hvalue⟩, ih.mp htail, rfl⟩
    · rintro ⟨⟨key, value⟩, tail, ⟨hkey, hvalue⟩, htail, rfl⟩
      simp only [paramsOf, toValue_eq_ok_iff.mpr hvalue, ih.mpr htail, hkey]

theorem keys_of_holdsEach {cached : List (String × CachedValue)} {entries : List (String × Value)}
    (h : HoldsEach cached entries) : cached.map (·.1) = entries.map (·.1) := by
  induction h with
  | nil => rfl
  | cons hhead _ ih => rw [List.map_cons, List.map_cons, hhead.1, ih]

theorem fieldsOf_eq_ok_iff {text : String} {fields : Fields Json} :
    fieldsOf text = .ok fields ↔ Json.parse? text = some (.object fields) := by
  unfold fieldsOf
  constructor
  · intro h
    split at h
    · rename_i read hread
      cases h
      obtain ⟨json, hjson, hview⟩ := Option.map_eq_some_iff.mp hread
      rw [hjson, Json.eq_of_view_eq (hview.trans (Json.view_object fields).symm)]
    · cases h
  · intro h
    rw [h, Option.map_some, Json.view_object]

theorem modeOf_some_eq_ok_iff {text : String} {mode : Option Json} :
    modeOf (some text) = .ok mode ↔ ∃ json, mode = some json ∧ Json.parse? text = some json := by
  simp only [modeOf]
  constructor
  · intro h
    split at h
    · rename_i hread
      cases h
      exact ⟨_, rfl, hread⟩
    · cases h
  · rintro ⟨json, rfl, hread⟩
    rw [hread]

theorem exists_text_of_modeOf {text : Option String} {json : Json}
    (h : modeOf text = .ok (some json)) : ∃ s, text = some s ∧ Json.parse? s = some json := by
  cases text with
  | none => cases h
  | some s =>
    obtain ⟨read, hmode, hread⟩ := modeOf_some_eq_ok_iff.mp h
    cases hmode
    exact ⟨s, rfl, hread⟩

theorem toRule_eq_ok_iff {cached : CachedRule} {rule : Rule} :
    cached.toRule = .ok rule ↔ rule.ruleType = cached.ruleType ∧ rule.operator = cached.operator ∧
      (∃ entries, HoldsEach cached.params entries ∧ rule.params = Fields.ofList entries) ∧
      Json.parse? cached.extra = some (.object rule.extra) := by
  unfold CachedRule.toRule
  constructor
  · intro h
    split at h
    · cases h
    · rename_i entries hentries
      split at h
      · cases h
      · rename_i extra hextra
        cases h
        exact ⟨rfl, rfl, ⟨entries, paramsOf_eq_ok_iff.mp hentries, rfl⟩,
          fieldsOf_eq_ok_iff.mp hextra⟩
  · rintro ⟨htype, hoperator, ⟨entries, hentries, hparams⟩, hextra⟩
    obtain ⟨ruleType, operator, params, extra⟩ := rule
    dsimp only at htype hoperator hparams hextra
    rw [paramsOf_eq_ok_iff.mpr hentries, fieldsOf_eq_ok_iff.mpr hextra, htype, hoperator, hparams]

theorem rulesOf_eq_ok_iff {cached : List CachedRule} {rules : List Rule} :
    rulesOf cached = .ok rules ↔ List.Forall₂ (fun c rule => c.toRule = .ok rule) cached rules := by
  induction cached generalizing rules with
  | nil =>
    rw [List.forall₂_nil_left_iff, rulesOf, Except.ok.injEq]
    exact eq_comm
  | cons head rest ih =>
    rw [List.forall₂_cons_left_iff]
    constructor
    · intro h
      unfold rulesOf at h
      split at h
      · cases h
      · rename_i rule hrule
        split at h
        · cases h
        · rename_i tail htail
          cases h
          exact ⟨rule, tail, hrule, ih.mp htail, rfl⟩
    · rintro ⟨rule, tail, hrule, htail, rfl⟩
      simp only [rulesOf, hrule, ih.mpr htail]

section Checks

/-- Keys of which each is above the one before it ascend throughout. -/
theorem pairwise_of_firstUnsorted? {keys : List String} (h : firstUnsorted? keys = none) :
    keys.Pairwise (· < ·) := by
  induction keys with
  | nil => exact .nil
  | cons head rest ih =>
    cases rest with
    | nil => exact List.pairwise_singleton _ head
    | cons next more =>
      unfold firstUnsorted? at h
      split at h
      · rename_i hlt
        have hrest := ih h
        refine List.pairwise_cons.mpr ⟨?_, hrest⟩
        intro key hkey
        rcases List.mem_cons.mp hkey with rfl | hmore
        · exact hlt
        · exact String.lt_trans hlt ((List.pairwise_cons.mp hrest).1 key hmore)
      · cases h

theorem checked_of_ruleDefect? {rules : List CachedRule} {index : Nat}
    (h : ruleDefect? index rules = none) :
    ∀ rule ∈ rules, rule.ruleType ≠ "" ∧ (rule.params.map (·.1)).Pairwise (· < ·) := by
  induction rules generalizing index with
  | nil => nofun
  | cons head rest ih =>
    unfold ruleDefect? at h
    split at h
    · cases h
    · rename_i htype
      split at h
      · cases h
      · rename_i hsorted
        intro rule hrule
        rcases List.mem_cons.mp hrule with rfl | hrest
        · exact ⟨htype, pairwise_of_firstUnsorted? hsorted⟩
        · exact ih h rule hrest

theorem checked_of_defect? {payload : Payload} (h : payload.defect? = none) :
    payload.ruleCount = payload.rules.length ∧
      ∀ rule ∈ payload.rules, rule.ruleType ≠ "" ∧ (rule.params.map (·.1)).Pairwise (· < ·) := by
  unfold Payload.defect? at h
  split at h
  · cases h
  · rename_i hcount
    exact ⟨not_not.mp hcount, checked_of_ruleDefect? h⟩

end Checks

/-- A payload that is converted has passed its checks, and its parts are converted one by one. -/
theorem toSet_eq_ok_iff {payload : Payload} {set : RuleSet} :
    payload.toSet = .ok set ↔ payload.defect? = none ∧
      rulesOf payload.rules = .ok set.rules ∧
      modeOf payload.unrecognizedMode = .ok set.unrecognizedMode ∧
      fieldsOf payload.extra = .ok set.extra ∧ set.matchMode = payload.matchMode ∧
      set.hideUnconditionally = payload.hideUnconditionally ∧
      set.disabledForPrivileged = payload.disabledForPrivileged := by
  unfold Payload.toSet
  constructor
  · intro h
    split at h
    · cases h
    · rename_i hdefect
      cases hrules : rulesOf payload.rules with
      | error defect =>
        rw [hrules] at h
        cases h
      | ok rules =>
        cases hmode : modeOf payload.unrecognizedMode with
        | error defect =>
          rw [hrules, hmode] at h
          cases h
        | ok mode =>
          cases hextra : fieldsOf payload.extra with
          | error defect =>
            rw [hrules, hmode, hextra] at h
            cases h
          | ok extra =>
            rw [hrules, hmode, hextra] at h
            cases h
            exact ⟨hdefect, rfl, rfl, rfl, rfl, rfl, rfl⟩
  · rintro ⟨hdefect, hrules, hmode, hextra, hmatch, hhide, hdisabled⟩
    obtain ⟨rules, matchMode, hide, disabled, mode, extra⟩ := set
    dsimp only at hrules hmode hextra hmatch hhide hdisabled
    rw [hdefect, hrules, hmode, hextra, hmatch, hhide, hdisabled]
    rfl

end Cache

end ShippingRules
