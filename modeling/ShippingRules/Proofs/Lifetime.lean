import Mathlib.Logic.Relation
import ShippingRules.Proofs.Cache.Conversion
import ShippingRules.Proofs.Cache.RoundTrip
import ShippingRules.Proofs.Evaluation.Agreement

/-!
What happens to a set between evaluations: it is normalized, saved and read again, or cached and
restored, in any order and any number of times, and each time by an engine of its own. A match type
that names no mode still names none after all of this, so the set never comes to match. What is
written of it drifts with the numbers in it, each of which may come back as another one; it is
written back unchanged through every run if and only if its numbers are read back. What keeps the
steps going is a bound on the depth of everything that is kept as JSON.
-/
namespace ShippingRules

namespace Json

/-- What a value may have become once it has been written and read any number of times. -/
def DriftsTo : Json → Json → Prop := Relation.ReflTransGen fun json back => json.reread = some back

/-- A value whose numbers are read back stays as it is. -/
theorem DriftsTo.eq_of_numbersReadBack {json back : Json} (h : json.DriftsTo back)
    (hdepth : json.nesting ≤ maxNesting) (hnumbers : json.NumbersReadBack) : back = json := by
  induction h with
  | refl => rfl
  | tail _ hstep ih =>
    rw [ih, hnumbers.reread_eq hdepth] at hstep
    exact (Option.some.inj hstep).symm

/-- The fields of an object are no deeper when the object has been written and read. -/
theorem nesting_le_of_reread_object {fields back : Fields Json} {depth : Nat} (hdepth : depth ≤ 126)
    (h : ∀ key json, fields.get? key = some json → json.nesting ≤ depth)
    (hback : (object fields).reread = some (object back)) :
    ∀ key json, back.get? key = some json → json.nesting ≤ depth := by
  have hfields : (object fields).nesting ≤ depth + 1 := nesting_object_le_iff.mpr h
  have hmax : (object fields).nesting ≤ maxNesting :=
    Nat.le_trans hfields (Nat.succ_le_succ hdepth)
  exact nesting_object_le_iff.mp (Nat.le_trans (nesting_le_of_reread hmax hback) hfields)

end Json

namespace RuleSet

open Cache

/-- One thing that is done to a set. Where reading can fail, it did not. -/
inductive Step : RuleSet → RuleSet → Prop
  | normalize (set : RuleSet) (engine : Engine) : Step set (engine.normalizeSet set)
  | load {set back : RuleSet} (engine : Engine)
      (loaded : engine.loadSettings set.toJson.render = .ok back) : Step set back
  | read {set back : RuleSet} (parsed : parse set.toJson.render = .ok back) : Step set back
  | restore {set back : RuleSet} {source : Option String} {bytes : Bytes}
      (written : set.toBytes source = .ok bytes) (restored : ofBytes bytes = .ok back) :
      Step set back

/-- A set with this match type, which names no mode, and with nothing kept as JSON that would be
too deep once the set is written. -/
structure Inert (mode : Json) (set : RuleSet) : Prop where
  unnamed : modeOf? mode = none
  stored : set.unrecognizedMode = some mode
  nests : set.Nests 123

/-- The match type that a set is written with. -/
def WritesMode (mode : Json) (set : RuleSet) : Prop :=
  ∃ written, set.toJson = .object written ∧ written.get? matchTypeKey = some mode

theorem writesMode_iff {mode : Json} {set : RuleSet} :
    set.WritesMode mode ↔ set.writtenMode = mode := by
  constructor
  · rintro ⟨written, hwritten, hget⟩
    rw [← Json.object_injective hwritten, get?_toFields_matchTypeKey] at hget
    exact Option.some.inj hget
  · rintro rfl
    exact ⟨set.toFields, rfl, get?_toFields_matchTypeKey set⟩

/-- No value comes to name a mode by being written and read. -/
theorem modeOf?_of_reread {mode kept : Json} (h : modeOf? mode = none)
    (hdepth : mode.nesting ≤ Json.maxNesting) (hkept : mode.reread = some kept) :
    modeOf? kept = none := by
  obtain ⟨hnull, hall, hany⟩ := (modeOf?_eq_none_iff mode).mp h
  refine (modeOf?_eq_none_iff kept).mpr ⟨?_, ?_, ?_⟩
  · rintro rfl
    exact hnull (Json.eq_of_reread hdepth hkept (Or.inl rfl))
  · rintro rfl
    exact hall (Json.eq_of_reread hdepth hkept (Or.inr ⟨_, rfl⟩))
  · rintro rfl
    exact hany (Json.eq_of_reread hdepth hkept (Or.inr ⟨_, rfl⟩))

section Restoring

variable {set back : RuleSet} {source : Option String}

theorem exists_rule_of_toSet (h : (Payload.ofSet set source).toSet = .ok back) {restored : Rule}
    (hrestored : restored ∈ back.rules) :
    ∃ rule ∈ set.rules, (CachedRule.ofRule rule).toRule = .ok restored := by
  obtain ⟨-, hrules, -⟩ := toSet_eq_ok_iff.mp h
  have hpairs := rulesOf_eq_ok_iff.mp hrules
  rw [Payload.ofSet, List.forall₂_map_left_iff] at hpairs
  obtain ⟨place, hplace, hget⟩ := List.getElem_of_mem hrestored
  have hbound : place < set.rules.length := hpairs.length_eq.symm ▸ hplace
  refine ⟨set.rules[place], List.getElem_mem hbound, ?_⟩
  rw [← hget]
  exact hpairs.get hbound hplace

/-- Restoring reads the match type of a set again, and makes nothing deeper that the set keeps. -/
theorem Nests.of_toSet {mode : Json} (hnests : set.Nests 123)
    (hmode : set.unrecognizedMode = some mode)
    (h : (Payload.ofSet set source).toSet = .ok back) :
    ∃ kept, mode.reread = some kept ∧ back.unrecognizedMode = some kept ∧ back.Nests 123 := by
  obtain ⟨-, -, hkept, hextra, -⟩ := toSet_eq_ok_iff.mp h
  rw [Payload.ofSet, hmode, Option.map_some] at hkept
  obtain ⟨kept, hback, hread⟩ := modeOf_some_eq_ok_iff.mp hkept
  have hdepth : mode.nesting ≤ 126 := hnests.mode hmode
  have hfields : (Json.object set.extra).reread = some (.object back.extra) :=
    fieldsOf_eq_ok_iff.mp hextra
  refine ⟨kept, hread, hback, ?_, ?_, ?_⟩
  · intro json hjson
    cases hback.symm.trans hjson
    exact Nat.le_trans (Json.nesting_le_of_reread (Nat.le_succ_of_le hdepth) hread) hdepth
  · intro key json hget
    exact Json.nesting_le_of_reread_object (Nat.le_refl 126) (fun _ _ => hnests.extra) hfields
      key json hget
  · intro restored hrestored
    obtain ⟨rule, hrule, hconvert⟩ := exists_rule_of_toSet h hrestored
    obtain ⟨-, -, -, hkeptFields⟩ := toRule_eq_ok_iff.mp hconvert
    exact Json.nesting_le_of_reread_object (by decide) (hnests.rules rule hrule) hkeptFields

end Restoring

namespace Inert

variable {mode : Json} {set back last : RuleSet}

theorem normalizeSet (h : Inert mode set) (engine : Engine) :
    Inert mode (engine.normalizeSet set) :=
  ⟨h.unnamed, h.stored, h.nests.normalizeSet engine⟩

theorem writtenMode (h : Inert mode set) : set.writtenMode = mode := by
  rw [RuleSet.writtenMode, h.stored, Option.getD_some]

theorem nesting_mode_le (h : Inert mode set) : mode.nesting ≤ Json.maxNesting :=
  Nat.le_succ_of_le (h.nests.mode h.stored)

theorem nesting_toJson_le (h : Inert mode set) : set.toJson.nesting ≤ Json.maxNesting :=
  RuleSet.nesting_toJson_le h.nests

/-- What is read of an inert set that was written is inert again, with its match type read again. -/
theorem of_fields (h : Inert mode set) {fields : Fields Json}
    (hread : set.toJson.reread = some (.object fields)) :
    ∃ kept, mode.reread = some kept ∧ Inert kept (ofFields fields) := by
  obtain ⟨hsome, heq⟩ := (Json.reread_object_eq_some_iff h.nesting_toJson_le).mp hread
  have hmode : set.toFields.get? matchTypeKey = some mode := by
    rw [get?_toFields_matchTypeKey, h.writtenMode]
  obtain ⟨kept, hkept⟩ := Option.isSome_iff_exists.mp (hsome _ _ hmode)
  have hget : fields.get? matchTypeKey = some kept := by
    rw [Json.object_injective heq, Fields.get?_filterMap, hmode, Option.bind_some, hkept]
  have hunnamed := modeOf?_of_reread h.unnamed h.nesting_mode_le hkept
  have hdepth : (Json.object fields).nesting ≤ 127 :=
    Nat.le_trans (Json.nesting_le_of_reread h.nesting_toJson_le hread) h.nesting_toJson_le
  refine ⟨kept, hkept, hunnamed, ?_, nests_ofFields hdepth⟩
  simp only [ofFields, hget, readMode, hunnamed]

/-- What is written of an inert set can be read. -/
theorem exists_parse (h : Inert mode set) :
    ∃ kept back, mode.reread = some kept ∧ parse set.toJson.render = .ok back ∧
      Inert kept back := by
  obtain ⟨json, hread⟩ := Option.isSome_iff_exists.mp (Json.isSome_reread h.nesting_toJson_le)
  obtain ⟨-, rfl⟩ := (Json.reread_object_eq_some_iff h.nesting_toJson_le).mp hread
  obtain ⟨kept, hkept, hinert⟩ := h.of_fields hread
  exact ⟨kept, _, hkept, parse_eq_ok_iff.mpr ⟨_, hread, rfl⟩, hinert⟩

theorem exists_load (h : Inert mode set) (engine : Engine) :
    ∃ kept back, mode.reread = some kept ∧ engine.loadSettings set.toJson.render = .ok back ∧
      Inert kept back := by
  obtain ⟨kept, back, hkept, hparse, hinert⟩ := h.exists_parse
  refine ⟨kept, engine.normalizeSet back, hkept, ?_, hinert.normalizeSet engine⟩
  rw [Engine.loadSettings, hparse]
  rfl

theorem of_restore (h : Inert mode set) {source : Option String} {bytes : Bytes}
    (hwrite : set.toBytes source = .ok bytes) (hrestore : ofBytes bytes = .ok back) :
    ∃ kept, mode.reread = some kept ∧ Inert kept back := by
  have hlength : (Part.payload.write (Payload.ofSet set source)).length < Nat.pow 256 4 := by
    by_contra hlong
    rw [toBytes, if_neg hlong] at hwrite
    cases hwrite
  obtain ⟨written, hwritten, hread⟩ := RuleSet.ofBytes_toBytes hlength
  cases hwrite.symm.trans hwritten
  have hset : (Payload.ofSet set source).toSet = .ok back := by
    rw [hread] at hrestore
    cases htoSet : (Payload.ofSet set source).toSet with
    | error defect =>
      rw [htoSet] at hrestore
      cases hrestore
    | ok restored =>
      rw [htoSet] at hrestore
      cases hrestore
      rfl
  obtain ⟨kept, hkept, hstored, hnests⟩ := h.nests.of_toSet h.stored hset
  exact ⟨kept, hkept, modeOf?_of_reread h.unnamed h.nesting_mode_le hkept, hstored, hnests⟩

/-- A step reads the match type again or leaves it alone. -/
theorem of_step (h : Inert mode set) (hstep : Step set back) :
    ∃ kept, mode.DriftsTo kept ∧ Inert kept back := by
  cases hstep with
  | normalize engine => exact ⟨mode, .refl, h.normalizeSet engine⟩
  | load engine loaded =>
    obtain ⟨kept, other, hkept, hload, hinert⟩ := h.exists_load engine
    cases loaded.symm.trans hload
    exact ⟨kept, .single hkept, hinert⟩
  | read parsed =>
    obtain ⟨kept, other, hkept, hparse, hinert⟩ := h.exists_parse
    cases parsed.symm.trans hparse
    exact ⟨kept, .single hkept, hinert⟩
  | restore written restored =>
    obtain ⟨kept, hkept, hinert⟩ := h.of_restore written restored
    exact ⟨kept, .single hkept, hinert⟩

/-- No run of steps gives an inert set a mode. -/
theorem of_run (h : Inert mode set) (hrun : Relation.ReflTransGen Step set last) :
    ∃ kept, mode.DriftsTo kept ∧ Inert kept last := by
  induction hrun with
  | refl => exact ⟨mode, .refl, h⟩
  | tail _ hstep ih =>
    obtain ⟨between, hbetween, hinert⟩ := ih
    obtain ⟨kept, hkept, hlast⟩ := hinert.of_step hstep
    exact ⟨kept, hbetween.trans hkept, hlast⟩

/-- Every run writes the match type as it was stored just if its numbers are read back: where one is
not, a single reading already brings another match type. -/
theorem writesMode_iff_numbersReadBack (h : Inert mode set) :
    (∀ last, Relation.ReflTransGen Step set last → last.WritesMode mode) ↔
      mode.NumbersReadBack := by
  constructor
  · intro hwrites
    obtain ⟨kept, back, hkept, hparse, hinert⟩ := h.exists_parse
    have hmode := writesMode_iff.mp (hwrites back (.single (.read hparse)))
    rw [hinert.writtenMode] at hmode
    exact (Json.reread_eq_self_iff h.nesting_mode_le).mp (hmode ▸ hkept)
  · intro hnumbers last hrun
    obtain ⟨kept, hdrift, hinert⟩ := h.of_run hrun
    rw [writesMode_iff, hinert.writtenMode]
    exact hdrift.eq_of_numbersReadBack h.nesting_mode_le hnumbers

theorem effectiveMode_eq (h : Inert mode set) : set.effectiveMode = none := by
  rw [effectiveMode, h.stored, Option.isSome_some, if_pos rfl]

theorem evaluate_eq (h : Inert mode set) {engine : Engine} (hoverride : engine.override = none)
    (snapshot : Snapshot) :
    engine.evaluate set snapshot =
      ⟨false, .all, set.rules.countP fun rule =>
        engine.evaluateRule snapshot rule = .matched, set.rules.length⟩ := by
  rw [Engine.evaluate_of_override snapshot hoverride, Engine.ruleVerdict, h.effectiveMode_eq]
  rfl

end Inert

end RuleSet

namespace Engine

theorem inert_of_loadSettings {engine : Engine} {text : String} {set : RuleSet}
    (hload : engine.loadSettings text = .ok set) {fields : Fields Json}
    (hparse : Json.parse? text = some (.object fields)) {mode : Json}
    (hmode : fields.get? RuleSet.matchTypeKey = some mode)
    (hunnamed : RuleSet.modeOf? mode = none) : RuleSet.Inert mode set := by
  cases hload.symm.trans (loadSettings_eq_ok_iff.mpr ⟨fields, hparse, rfl⟩)
  have hread : (RuleSet.ofFields fields).unrecognizedMode = some mode := by
    simp only [RuleSet.ofFields, hmode, RuleSet.readMode, hunnamed]
  have hinert : RuleSet.Inert mode (RuleSet.ofFields fields) :=
    ⟨hunnamed, hread, RuleSet.nests_ofFields (Json.nesting_le_of_parse? hparse)⟩
  exact hinert.normalizeSet engine

/-- A stored match type that names no mode keeps the set from matching through any run of steps,
although its rules are still counted, and it is written as what it drifts to. What is written at the
end of a run can always be read, so a run can go on. Every run writes the match type unchanged just
if all the numbers in it are read back. -/
theorem inert_of_steps {engine : Engine} {text : String} {set : RuleSet}
    (hload : engine.loadSettings text = .ok set) {fields : Fields Json}
    (hparse : Json.parse? text = some (.object fields)) {mode : Json}
    (hmode : fields.get? RuleSet.matchTypeKey = some mode) (hnull : mode ≠ .null)
    (hall : mode ≠ .text "all") (hany : mode ≠ .text "any") :
    (∀ last, Relation.ReflTransGen RuleSet.Step set last →
      last.effectiveMode = none ∧
      (∃ kept, mode.DriftsTo kept ∧ last.WritesMode kept) ∧
      (∀ other : Engine, other.override = none → ∀ snapshot,
        other.evaluate last snapshot =
          ⟨false, .all, last.rules.countP fun rule =>
            other.evaluateRule snapshot rule = .matched, last.rules.length⟩) ∧
      (∃ back, RuleSet.parse last.toJson.render = .ok back) ∧
      ∀ other : Engine, ∃ back, other.loadSettings last.toJson.render = .ok back) ∧
    ((∀ last, Relation.ReflTransGen RuleSet.Step set last → last.WritesMode mode) ↔
      mode.NumbersReadBack) := by
  have hunnamed : RuleSet.modeOf? mode = none :=
    (RuleSet.modeOf?_eq_none_iff mode).mpr ⟨hnull, hall, hany⟩
  have hinert : RuleSet.Inert mode set := inert_of_loadSettings hload hparse hmode hunnamed
  refine ⟨fun last hrun => ?_, hinert.writesMode_iff_numbersReadBack⟩
  obtain ⟨kept, hdrift, hlast⟩ := hinert.of_run hrun
  refine ⟨hlast.effectiveMode_eq, ⟨kept, hdrift, RuleSet.writesMode_iff.mpr hlast.writtenMode⟩,
    ?_, ?_, ?_⟩
  · intro other hoverride snapshot
    exact hlast.evaluate_eq hoverride snapshot
  · obtain ⟨-, back, -, hread, -⟩ := hlast.exists_parse
    exact ⟨back, hread⟩
  · intro other
    obtain ⟨-, back, -, hread, -⟩ := hlast.exists_load other
    exact ⟨back, hread⟩

/-- A list with the number 0.75 as match type. -/
def listedMode : Json :=
  .array [.text "any", .number (.double ⟨0x3fe8000000000000⟩ (by decide))]

/-- Settings with this match type and one rule that asks for a guest. -/
def listedSettings : Fields Json := .ofList [(RuleSet.matchTypeKey, listedMode),
  (RuleSet.rulesKey, .array [.object (.ofList [(Rule.typeKey, .text "user:logged_in")])])]

/-- The rule matches a guest, and the set does not, after it has been cached, restored, saved and
loaded. -/
theorem inert_of_steps_listedMode :
    ∃ engine set bytes back, build .standard = .ok engine ∧
      engine.loadSettings (Json.object listedSettings).render = .ok set ∧
      set.toBytes none = .ok bytes ∧ RuleSet.ofBytes bytes = .ok set ∧
      engine.loadSettings set.toJson.render = .ok back ∧ back.effectiveMode = none ∧
      back.WritesMode listedMode ∧ engine.evaluate back emptyCart = ⟨false, .all, 1, 1⟩ := by
  have hstandard : (build .standard).toOption.any (fun engine =>
      let set := engine.normalizeSet (RuleSet.ofFields listedSettings)
      Decidable.decide ((Cache.Part.payload.write (Cache.Payload.ofSet set none)).length <
          Nat.pow 256 4) &&
        Decidable.decide set.NumbersReadBack && Decidable.decide set.toJson.NumbersReadBack &&
        set.rules.all (fun rule => rule.ruleType != "") &&
        set.unshadowed.rules.map (engine.evaluateRule emptyCart) == [.matched]) = true := by
    decide +kernel
  obtain ⟨engine, hengine, hchecked⟩ := exists_of_any hstandard
  simp only [Bool.and_eq_true, decide_eq_true_eq, List.all_eq_true, bne_iff_ne, beq_iff_eq]
    at hchecked
  obtain ⟨⟨⟨⟨hlength, hkept⟩, hnumbers⟩, htypes⟩, houtcomes⟩ := hchecked
  have hparse : Json.parse? (Json.object listedSettings).render = some (.object listedSettings) :=
    Json.parse?_render (by decide +kernel) (by decide +kernel)
  have hload : engine.loadSettings (Json.object listedSettings).render =
      .ok (engine.normalizeSet (RuleSet.ofFields listedSettings)) :=
    loadSettings_eq_ok_iff.mpr ⟨listedSettings, hparse, rfl⟩
  obtain ⟨bytes, hwrite, hrestore, -⟩ := ofBytes_toBytes_iff hengine hload none hlength hkept
  have hback := loadSettings_render_toJson (storable_template_of_standard hengine) hload hnumbers
  have hrun : Relation.ReflTransGen RuleSet.Step _ _ :=
    .tail (.single (.restore hwrite (hrestore.mpr htypes))) (.load engine hback)
  have hmode : listedSettings.get? RuleSet.matchTypeKey = some listedMode := rfl
  obtain ⟨hruns, hwrites⟩ := inert_of_steps hload hparse hmode nofun nofun nofun
  obtain ⟨heffective, -, hverdict, -⟩ := hruns _ hrun
  have hwritten := hwrites.mpr (by decide +kernel) _ hrun
  refine ⟨engine, _, bytes, _, hengine, hload, hwrite, hrestore.mpr htypes, hback, heffective,
    hwritten, ?_⟩
  obtain ⟨rule, hrules, hmatched⟩ := List.map_eq_singleton_iff.mp houtcomes
  rw [hverdict engine (eq_of_build hengine).2 emptyCart, hrules, List.countP_singleton, hmatched]
  rfl

/-- The number 1.0087595693121503. -/
def driftingMode : Json := .number (.double ⟨0x3ff023e112fb904e⟩ (by decide))

def driftingSettings : Fields Json := .ofList [(RuleSet.matchTypeKey, driftingMode)]

/-- A longer numeral for it, which is read as it. -/
def driftingSpelling : Json.Spelling where
  whole := ['1']
  fraction := ['0', '0', '8', '7', '5', '9', '5', '6', '9', '3', '1', '2', '1', '5', '0', '2']
  power := none
  wholeDigits := List.all_eq_true.mp rfl
  fractionDigits := List.all_eq_true.mp rfl
  present := by decide
  leading := by decide

def driftingText : String := "\x7b\"match_type\":1.0087595693121502\x7d"

theorem parse?_driftingText : Json.parse? driftingText = some (.object driftingSettings) := by
  have hread : Json.Number.of? (driftingSpelling.numeral false) driftingSpelling.isWhole =
      some (.double ⟨0x3ff023e112fb904e⟩ (by decide)) := by decide +kernel
  have hvalue : Json.ReadAs (Json.value 126) ('1' :: '.' :: driftingSpelling.fraction)
      ((some (.double ⟨0x3ff023e112fb904e⟩ (by decide))).map Json.number) := by
    refine Json.readAs_number 126 (Or.inr (by decide)) fun rest hrest => ?_
    have hspelling := Json.readNumber_spelling false driftingSpelling hrest
    rw [hread] at hspelling
    exact hspelling
  have htext : driftingText = String.ofList ('{' :: Json.commaList (Json.memberText fun _ =>
      '1' :: '.' :: driftingSpelling.fraction) driftingSettings.entries ++ ['}']) := by
    decide +kernel
  have hfields : ∀ field ∈ driftingSettings.entries, Json.StartsApart ']'
      ('1' :: '.' :: driftingSpelling.fraction) := fun _ _ =>
    Json.startsApart_number (Or.inr (by decide)) _
  rw [htext]
  exact Json.parse?_of_readAs ⟨'{', _, rfl, by decide, by decide⟩
    (@Json.readAs_object _ _ (fun _ => some driftingMode) _ hfields fun _ _ => hvalue)

/-- The number 1.0087595693121503 is written as 1.0087595693121505 once it has been written and read
again. -/
theorem mode_drifts :
    ∃ engine set back, build .standard = .ok engine ∧
      Json.parse? driftingText = some (.object driftingSettings) ∧
      driftingSettings.get? RuleSet.matchTypeKey = some driftingMode ∧
      driftingMode ≠ .null ∧ driftingMode ≠ .text "all" ∧ driftingMode ≠ .text "any" ∧
      engine.loadSettings driftingText = .ok set ∧
      engine.loadSettings set.toJson.render = .ok back ∧ ¬back.WritesMode driftingMode := by
  obtain ⟨engine, hengine⟩ := exists_standard
  have hload : engine.loadSettings driftingText =
      .ok (engine.normalizeSet (RuleSet.ofFields driftingSettings)) :=
    loadSettings_eq_ok_iff.mpr ⟨_, parse?_driftingText, rfl⟩
  have hmode : driftingSettings.get? RuleSet.matchTypeKey = some driftingMode := rfl
  have hinert : RuleSet.Inert driftingMode _ :=
    inert_of_loadSettings hload parse?_driftingText hmode rfl
  obtain ⟨kept, back, hkept, hback, hlast⟩ := hinert.exists_load engine
  refine ⟨engine, _, back, hengine, parse?_driftingText, hmode, nofun, nofun, nofun, hload, hback,
    fun hwrites => ?_⟩
  rw [RuleSet.writesMode_iff, hlast.writtenMode] at hwrites
  have hnumbers : ¬driftingMode.NumbersReadBack := by decide +kernel
  exact hnumbers ((Json.reread_eq_self_iff (by decide)).mp (hwrites ▸ hkept))

end Engine

end ShippingRules
