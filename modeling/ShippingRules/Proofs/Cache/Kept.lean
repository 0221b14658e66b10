import ShippingRules.Proofs.Cache.Conversion
import ShippingRules.Proofs.Cache.RoundTrip
import ShippingRules.Proofs.Temporal.RoundTrip

/-!
The sets that the cache keeps: their rules have types, their instants are plain, and what they keep
as JSON nests at most 127 deep. Where numbers are read back, these sets are read back as they were
and no other set is. The cache yields no others, whatever bytes it is given, so what was read from a
cache can be cached again.
-/
namespace ShippingRules

section Identical

/-- The same bits, but any NaN stands for any other. -/
def Double.Identical (a b : Double) : Prop := a = b ∨ a.isNaN = true ∧ b.isNaN = true

def Value.Identical : Value → Value → Prop
  | number a, number b => a.Identical b
  | a, b => a = b

structure Rule.Identical (a b : Rule) : Prop where
  ruleType : a.ruleType = b.ruleType
  operator : a.operator = b.operator
  params : List.Forall₂ (fun x y => x.1 = y.1 ∧ x.2.Identical y.2) a.params.entries b.params.entries
  extra : a.extra = b.extra

/-- Equality bit for bit, but for the form of NaN. -/
structure RuleSet.Identical (a b : RuleSet) : Prop where
  rules : List.Forall₂ Rule.Identical a.rules b.rules
  matchMode : a.matchMode = b.matchMode
  hideUnconditionally : a.hideUnconditionally = b.hideUnconditionally
  disabledForPrivileged : a.disabledForPrivileged = b.disabledForPrivileged
  unrecognizedMode : a.unrecognizedMode = b.unrecognizedMode
  extra : a.extra = b.extra

theorem Value.Identical.refl (v : Value) : v.Identical v := by
  cases v with
  | number x => exact .inl rfl
  | _ => rfl

theorem Value.Identical.eq_temporal {v : Value} {t : Temporal} (h : v.Identical (.temporal t)) :
    v = .temporal t := by
  cases v with
  | number x => cases h
  | _ => exact h

theorem Rule.Identical.refl (rule : Rule) : rule.Identical rule :=
  ⟨rfl, rfl, List.forall₂_same.mpr fun entry _ => ⟨rfl, Value.Identical.refl entry.2⟩, rfl⟩

theorem RuleSet.Identical.refl (set : RuleSet) : set.Identical set :=
  ⟨List.forall₂_same.mpr fun rule _ => Rule.Identical.refl rule, rfl, rfl, rfl, rfl, rfl⟩

end Identical

theorem exists_mem_of_forall₂ {α β : Type} {R : α → β → Prop} {as : List α} {bs : List β}
    (h : List.Forall₂ R as bs) : ∀ b ∈ bs, ∃ a ∈ as, R a b := by
  induction h with
  | nil => nofun
  | cons hhead _ ih =>
    intro b hb
    rcases List.mem_cons.mp hb with rfl | hb
    · exact ⟨_, List.mem_cons_self, hhead⟩
    · obtain ⟨a, ha, hab⟩ := ih b hb
      exact ⟨a, List.mem_cons_of_mem _ ha, hab⟩

namespace Rule

open Cache

/-- The rules that the cache keeps. -/
structure Keepable (rule : Rule) : Prop where
  typed : rule.ruleType ≠ ""
  plain : ∀ key t, rule.params.get? key = some (.temporal t) → t.Plain
  extra : (Json.object rule.extra).nesting ≤ 127

/-- The parameters of a rule that was converted are those of the cached rule, one by one. -/
theorem holdsEach_of_toRule {cached : CachedRule} {rule : Rule} (h : cached.toRule = .ok rule)
    (hsorted : (cached.params.map (·.1)).Pairwise (· < ·)) :
    HoldsEach cached.params rule.params.entries := by
  obtain ⟨-, -, ⟨entries, hentries, hparams⟩, -⟩ := toRule_eq_ok_iff.mp h
  rw [keys_of_holdsEach hentries] at hsorted
  rw [hparams, Fields.entries_ofList (List.pairwise_map.mp hsorted)]
  exact hentries

theorem keepable_of_toRule {cached : CachedRule} {rule : Rule} (h : cached.toRule = .ok rule)
    (htype : cached.ruleType ≠ "") (hsorted : (cached.params.map (·.1)).Pairwise (· < ·)) :
    rule.Keepable := by
  have hholds := holdsEach_of_toRule h hsorted
  obtain ⟨hruleType, -, -, hextra⟩ := toRule_eq_ok_iff.mp h
  refine ⟨hruleType ▸ htype, ?_, Json.nesting_le_of_parse? hextra⟩
  intro key t hget
  obtain ⟨⟨cachedKey, value⟩, -, -, hvalue⟩ :=
    exists_mem_of_forall₂ hholds _ (Fields.get?_eq_some_iff.mp hget)
  dsimp only at hvalue
  cases hvalue with
  | instant hread => exact Temporal.plain_of_parse? hread

theorem Identical.keepable {a b : Rule} (h : a.Identical b) (ha : a.Keepable) : b.Keepable := by
  refine ⟨h.ruleType ▸ ha.typed, ?_, h.extra ▸ ha.extra⟩
  intro key t hget
  obtain ⟨⟨otherKey, value⟩, hmem, hkey, hvalue⟩ :=
    exists_mem_of_forall₂ h.params _ (Fields.get?_eq_some_iff.mp hget)
  dsimp only at hkey hvalue
  rw [hkey, hvalue.eq_temporal] at hmem
  exact ha.plain key t (Fields.get?_eq_some_iff.mpr hmem)

theorem Keepable.cacheableRule {rule : Rule} (h : rule.Keepable)
    (hnumbers : (Json.object rule.extra).NumbersReadBack) : CacheableRule rule :=
  ⟨fun hget t ht => Temporal.parse?_text (h.plain _ t (ht ▸ hget)), hnumbers.reread_eq h.extra⟩

end Rule

namespace RuleSet

open Cache

/-- The sets that the cache keeps. -/
structure Keepable (set : RuleSet) : Prop where
  rules : ∀ rule ∈ set.rules, rule.Keepable
  mode : ∀ json, set.unrecognizedMode = some json → json.nesting ≤ 127
  extra : (Json.object set.extra).nesting ≤ 127

variable {set : RuleSet} {source : Option String}

theorem Identical.keepable {a b : RuleSet} (h : a.Identical b) (ha : a.Keepable) : b.Keepable := by
  refine ⟨?_, fun json hjson => ha.mode json (h.unrecognizedMode.trans hjson), h.extra ▸ ha.extra⟩
  intro rule hrule
  obtain ⟨other, hother, hidentical⟩ := exists_mem_of_forall₂ h.rules rule hrule
  exact hidentical.keepable (ha.rules other hother)

theorem Keepable.cacheable (h : set.Keepable) (hnumbers : set.NumbersReadBack) : set.Cacheable :=
  ⟨fun rule hrule => (h.rules rule hrule).cacheableRule (hnumbers.rule hrule),
    fun json hjson => (hnumbers.mode hjson).reread_eq (h.mode json hjson),
    hnumbers.extra.reread_eq h.extra⟩

/-- What is kept is read back as it was, if its numbers are. -/
theorem Keepable.ofBytes_toBytes (h : set.Keepable) (hnumbers : set.NumbersReadBack)
    (hlength : (Part.payload.write (Payload.ofSet set source)).length < Nat.pow 256 4) :
    ∃ bytes, set.toBytes source = .ok bytes ∧ ofBytes bytes = .ok set := by
  obtain ⟨bytes, hwrite, hread⟩ := RuleSet.ofBytes_toBytes hlength
  refine ⟨bytes, hwrite, ?_⟩
  rw [hread, toSet_ofSet (h.cacheable hnumbers) fun rule hrule => (h.rules rule hrule).typed]
  rfl

theorem ofBytes_eq_ok_iff {bytes : Bytes} :
    ofBytes bytes = .ok set ↔
      ∃ payload, readPayload bytes = .ok payload ∧ payload.toSet = .ok set := by
  unfold ofBytes
  cases readPayload bytes with
  | error error => simp
  | ok payload => cases hset : payload.toSet <;> simp [Except.mapError, hset]

theorem forall₂_toRule_of_toSet {payload : Payload} (h : payload.toSet = .ok set) :
    List.Forall₂ (fun cached rule => (cached.ruleType ≠ "" ∧
        (cached.params.map (·.1)).Pairwise (· < ·)) ∧ cached.toRule = .ok rule)
      payload.rules set.rules := by
  obtain ⟨hdefect, hrules, -⟩ := toSet_eq_ok_iff.mp h
  exact (List.forall₂_and_left _ _).mpr
    ⟨(checked_of_defect? hdefect).2, rulesOf_eq_ok_iff.mp hrules⟩

/-- Every payload that is converted gives a set that is kept. -/
theorem keepable_of_toSet {payload : Payload} (h : payload.toSet = .ok set) : set.Keepable := by
  obtain ⟨-, -, hmode, hextra, -⟩ := toSet_eq_ok_iff.mp h
  refine ⟨?_, ?_, Json.nesting_le_of_parse? (fieldsOf_eq_ok_iff.mp hextra)⟩
  · intro rule hrule
    obtain ⟨cached, -, ⟨htype, hsorted⟩, hconvert⟩ :=
      exists_mem_of_forall₂ (forall₂_toRule_of_toSet h) rule hrule
    exact Rule.keepable_of_toRule hconvert htype hsorted
  · intro json hjson
    rw [hjson] at hmode
    obtain ⟨text, -, hparse⟩ := exists_text_of_modeOf hmode
    exact Json.nesting_le_of_parse? hparse

theorem keepable_of_ofBytes {bytes : Bytes} (h : ofBytes bytes = .ok set) : set.Keepable := by
  obtain ⟨payload, -, hset⟩ := ofBytes_eq_ok_iff.mp h
  exact keepable_of_toSet hset

/-- A set whose numbers are read back is read back from its cached form exactly if it is kept, and
whether NaN may change its form makes no difference to that. -/
theorem ofBytes_toBytes_eq_ok_iff (set : RuleSet) (source : Option String)
    (hlength : (Part.payload.write (Payload.ofSet set source)).length < Nat.pow 256 4)
    (hnumbers : set.NumbersReadBack) :
    ∃ bytes, set.toBytes source = .ok bytes ∧ (ofBytes bytes = .ok set ↔ set.Keepable) ∧
      ((∃ back, ofBytes bytes = .ok back ∧ back.Identical set) ↔ set.Keepable) := by
  obtain ⟨bytes, hwrite, -⟩ := RuleSet.ofBytes_toBytes hlength
  have hkept : set.Keepable → ofBytes bytes = .ok set := by
    intro h
    obtain ⟨other, hother, hread⟩ := h.ofBytes_toBytes hnumbers hlength
    cases hwrite.symm.trans hother
    exact hread
  refine ⟨bytes, hwrite, ⟨keepable_of_ofBytes, hkept⟩, ?_, ?_⟩
  · rintro ⟨back, hback, hidentical⟩
    exact hidentical.keepable (keepable_of_ofBytes hback)
  · intro h
    exact ⟨set, hkept h, .refl set⟩

section Clock

/-- A rule on a time of day, with NaN beside it and the number 0.5 in what it keeps. -/
def clockRule (time : ClockTime) : Rule where
  ruleType := "date:time"
  operator := "before"
  params := .ofList [("time_one", .temporal (.timeOfDay time)), ("value", .number .nan)]
  extra := .ofList [("note", .array [.number (.double ⟨0x3fe0000000000000⟩ (by decide))])]

def clockSet (time : ClockTime) : RuleSet := { RuleSet.empty with rules := [clockRule time] }

def lastSecond : ClockTime := ⟨23, 59, 59, 0, by decide⟩

def leapSecond : ClockTime := ⟨23, 59, 59, 1000000000, by decide⟩

theorem keepable_clockSet_iff {time : ClockTime} : (clockSet time).Keepable ↔ time.nano = 0 := by
  constructor
  · intro h
    have hget : (clockRule time).params.get? "time_one" = some (.temporal (.timeOfDay time)) := by
      rw [clockRule, Fields.get?_ofList]
      rfl
    exact (h.rules _ (List.mem_singleton_self _)).plain _ _ hget
  · intro h
    have hnesting : (Json.object (clockRule time).extra).nesting = 2 := rfl
    refine ⟨?_, nofun, Nat.succ_le_succ (Nat.zero_le _)⟩
    intro rule hrule
    cases List.mem_singleton.mp hrule
    refine ⟨show "date:time" ≠ "" by decide, ?_, hnesting ▸ by decide⟩
    intro key t hget
    have hmem := Fields.mem_of_get?_ofList hget
    simp only [List.mem_cons, Prod.mk.injEq, Value.temporal.injEq, reduceCtorEq, and_false,
      List.not_mem_nil, or_false] at hmem
    rw [hmem.2]
    exact h

/-- The last second of a day is kept, and the leap second after it is not. -/
theorem ofBytes_toBytes_eq_ok_iff_clockSet :
    (∃ bytes, (clockSet lastSecond).toBytes none = .ok bytes ∧
      ofBytes bytes = .ok (clockSet lastSecond)) ∧
    ∃ bytes, (clockSet leapSecond).toBytes none = .ok bytes ∧
      ¬∃ back, ofBytes bytes = .ok back ∧ back.Identical (clockSet leapSecond) := by
  obtain ⟨last, hlast, hkept, -⟩ :=
    ofBytes_toBytes_eq_ok_iff (clockSet lastSecond) none (by decide +kernel) (by decide +kernel)
  obtain ⟨leap, hleap, -, hlost⟩ :=
    ofBytes_toBytes_eq_ok_iff (clockSet leapSecond) none (by decide +kernel) (by decide +kernel)
  refine ⟨⟨last, hlast, hkept.mpr (keepable_clockSet_iff.mpr rfl)⟩, leap, hleap, ?_⟩
  rw [hlost, keepable_clockSet_iff]
  decide

end Clock

/-- Whatever bytes a set is read from, their payload counts its rules and has its parameters one by
one, and the set can be cached again if its numbers are read back. -/
theorem ofBytes_sound {bytes : Bytes} {set : RuleSet} (h : ofBytes bytes = .ok set) :
    ∃ payload, readPayload bytes = .ok payload ∧ payload.ruleCount = set.rules.length ∧
      (∀ rule ∈ set.rules, rule.ruleType ≠ "") ∧
      List.Forall₂ (fun cached rule => HoldsEach cached.params rule.params.entries)
        payload.rules set.rules ∧
      (set.NumbersReadBack → ∀ source,
        (Part.payload.write (Payload.ofSet set source)).length < Nat.pow 256 4 →
          ∃ again, set.toBytes source = .ok again ∧ ofBytes again = .ok set) := by
  obtain ⟨payload, hread, hset⟩ := ofBytes_eq_ok_iff.mp h
  have hkeepable := keepable_of_toSet hset
  have hrules := forall₂_toRule_of_toSet hset
  obtain ⟨hdefect, -⟩ := toSet_eq_ok_iff.mp hset
  have hcount := (checked_of_defect? hdefect).1
  refine ⟨payload, hread, hcount.trans hrules.length_eq,
    fun rule hrule => (hkeepable.rules rule hrule).typed, ?_, ?_⟩
  · exact hrules.imp fun cached rule hrule => Rule.holdsEach_of_toRule hrule.2 hrule.1.2
  · intro hnumbers source hlength
    exact hkeepable.ofBytes_toBytes hnumbers hlength

/-- A payload that no set is cached as: blanks stand around a literal and in an object, and a number
has a zero at its end. -/
def loosePayload : Payload where
  ruleCount := 1
  sourceDigest := none
  matchMode := .any
  hideUnconditionally := false
  disabledForPrivileged := false
  unrecognizedMode := some "[ 0.50]"
  rules := [⟨"date:date", "before",
    [("date_one", .instant " 2024-02-29\t"), ("value", .number .nan)], "\x7b \x7d"⟩]
  extra := "\x7b\x7d"

def looseBytes : Bytes :=
  header (Part.payload.write loosePayload) ++ Part.payload.write loosePayload

theorem readPayload_looseBytes : readPayload looseBytes = .ok loosePayload := by
  have hlength : (Part.payload.write loosePayload).length < Nat.pow 256 4 := by decide +kernel
  have hdecode : Part.payload.read (Part.payload.write loosePayload) = some (loosePayload, []) := by
    decide +kernel
  rw [readPayload, looseBytes, payloadBytes_header hlength]
  simp only [hdecode]

theorem ofBytes_sound_looseBytes :
    ∃ set, ofBytes looseBytes = .ok set ∧
      ∃ payload, readPayload looseBytes = .ok payload ∧ payload.ruleCount = set.rules.length ∧
        (∀ rule ∈ set.rules, rule.ruleType ≠ "") ∧
        List.Forall₂ (fun cached rule => HoldsEach cached.params rule.params.entries)
          payload.rules set.rules ∧
        ∀ source, (Part.payload.write (Payload.ofSet set source)).length < Nat.pow 256 4 →
          ∃ again, set.toBytes source = .ok again ∧ ofBytes again = .ok set := by
  have hconverts : loosePayload.toSet.toOption.any (fun set =>
      Decidable.decide set.NumbersReadBack) = true := by
    decide +kernel
  cases hset : loosePayload.toSet with
  | error defect =>
    rw [hset] at hconverts
    cases hconverts
  | ok set =>
    rw [hset] at hconverts
    have hread := ofBytes_eq_ok_iff.mpr ⟨loosePayload, readPayload_looseBytes, hset⟩
    obtain ⟨payload, hpayload, hcount, htypes, hparams, hagain⟩ := ofBytes_sound hread
    exact ⟨set, hread, payload, hpayload, hcount, htypes, hparams,
      hagain (of_decide_eq_true hconverts)⟩

end RuleSet

end ShippingRules
