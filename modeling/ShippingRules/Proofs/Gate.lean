import Mathlib.Data.List.TakeWhile
import ShippingRules.Gate
import ShippingRules.Proofs.Settings.Reload
import ShippingRules.Proofs.Verdict

/-!
Which options are hidden, told by the stored texts alone. Privileged callers see everything, and so
do others where the text is missing, is no JSON object, names an unknown match type or holds no
rule object. What is left hides an option by its flag or by its rules. A blank text needs no case of
its own, because no blank text holds a JSON value.
-/
namespace ShippingRules

section Blank

theorem isBlank_of_trim {s : String} (h : Text.trim s = "") :
    ∀ c ∈ s.toList, Text.isBlank c = true := by
  have htrim : Text.trimChars s.toList = [] := by
    have hchars := congrArg String.toList h
    rwa [Text.trim, String.toList_ofList] at hchars
  have hdropped : s.toList.dropWhile Text.isBlank = [] := by
    rw [Text.trimChars, Text.dropEndWhile, List.reverse_eq_nil_iff,
      List.dropWhile_eq_nil_iff] at htrim
    cases hrest : s.toList.dropWhile Text.isBlank with
    | nil => rfl
    | cons c rest =>
      have hfirst : Text.isBlank c = false := by
        have hhead := List.head?_dropWhile_not Text.isBlank s.toList
        rw [hrest] at hhead
        simpa using hhead
      have hlast := htrim c (by rw [hrest]; simp)
      rw [hfirst] at hlast
      cases hlast
  exact List.dropWhile_eq_nil_iff.mp hdropped

theorem not_digit_of_isBlank {c : Char} (h : Text.isBlank c = true) : c.isDigit = false := by
  refine Bool.eq_false_iff.mpr fun hdigit => ?_
  have hrange : 48 ≤ c.toNat ∧ c.toNat ≤ 57 := by
    simpa [Char.isDigit, UInt32.le_iff_toNat_le] using hdigit
  simp only [Text.isBlank, decide_eq_true_eq] at h
  omega

open Json in
theorem readNumber_eq_none {c : Char} {rest : List Char} (hminus : c ≠ '-')
    (hdigit : c.isDigit = false) : readNumber (c :: rest) = none := by
  have hfront : readMinus (c :: rest) = (false, c :: rest) := by
    unfold readMinus
    split
    · rename_i heq
      cases heq
      exact absurd rfl hminus
    · rfl
  have hrun : Numeral.digitRun (c :: rest) = ([], c :: rest) := by
    simp [Numeral.digitRun, hdigit]
  have hnumeral : readNumeral (c :: rest) = none := by
    unfold readNumeral
    rw [hfront]
    simp only [hrun, true_or, if_true]
  rw [readNumber, hnumeral]
  rfl

open Json in
theorem readValue_of_isBlank {nested : Option (Reader Json)} {c : Char} {rest : List Char}
    (h : Text.isBlank c = true) : readValue nested (c :: rest) = none := by
  have hne : ∀ d, Text.isBlank d = false → c ≠ d := by
    rintro d hd rfl
    rw [h] at hd
    cases hd
  have hopen : ¬(c = '[' ∨ c = '{') := not_or.mpr ⟨hne '[' (by decide), hne '{' (by decide)⟩
  have hnumber : readNumber (c :: rest) = none :=
    readNumber_eq_none (hne '-' (by decide)) (not_digit_of_isBlank h)
  unfold readValue
  dsimp only
  rw [if_neg (hne 'n' (by decide)), if_neg (hne 't' (by decide)), if_neg (hne 'f' (by decide)),
    if_neg (hne '"' (by decide)), if_neg hopen, hnumber]
  rfl

/-- No blank text holds a value. -/
theorem parse?_of_trim {s : String} (h : Text.trim s = "") : Json.parse? s = none := by
  have hblank := isBlank_of_trim h
  have hrun : (Json.value Json.maxNesting).run (Json.skipBlanks s.toList) = none := by
    cases hskip : Json.skipBlanks s.toList with
    | nil => rfl
    | cons c rest =>
      have hmem : c ∈ s.toList := by
        apply (List.dropWhile_sublist Json.isBlank).subset
        rw [← Json.skipBlanks, hskip]
        exact List.mem_cons_self
      exact readValue_of_isBlank (hblank c hmem)
  rw [Json.parse?, Json.parseChars?, hrun]
  rfl

end Blank

namespace RuleSet

theorem modeOf?_eq_any_iff (json : Json) : modeOf? json = some .any ↔ json = .text "any" := by
  constructor
  · intro h
    unfold modeOf? at h
    split at h
    · cases h
    · rename_i s hview
      have hname := (MatchMode.ofName?_eq_some_iff s .any).mp h
      cases hname
      exact Json.eq_of_view_eq hview
    · cases h
  · rintro rfl
    rfl

theorem unrecognizedMode_ofFields_iff (fields : Fields Json) :
    (ofFields fields).unrecognizedMode = none ↔
      fields.get? matchTypeKey = none ∨ fields.get? matchTypeKey = some .null ∨
        fields.get? matchTypeKey = some (.text "all") ∨
        fields.get? matchTypeKey = some (.text "any") := by
  simp only [ofFields]
  cases hget : fields.get? matchTypeKey with
  | none => exact iff_of_true rfl (.inl rfl)
  | some json =>
    simp only [readMode, reduceCtorEq, Option.some.injEq, false_or]
    cases hmode : modeOf? json with
    | none =>
      obtain ⟨hnull, hall, hany⟩ := (modeOf?_eq_none_iff json).mp hmode
      refine iff_of_false (Option.some_ne_none json) ?_
      rintro (h | h | h)
      · exact hnull h
      · exact hall h
      · exact hany h
    | some mode =>
      refine iff_of_true rfl ?_
      by_contra hcon
      rw [not_or, not_or] at hcon
      rw [(modeOf?_eq_none_iff json).mpr hcon] at hmode
      cases hmode

theorem matchMode_ofFields_iff (fields : Fields Json) :
    (ofFields fields).matchMode = .any ↔ fields.get? matchTypeKey = some (.text "any") := by
  simp only [ofFields]
  cases hget : fields.get? matchTypeKey with
  | none => simp only [readMode, reduceCtorEq]
  | some json =>
    rw [Option.some.injEq, ← modeOf?_eq_any_iff]
    cases hmode : modeOf? json with
    | none => simp only [readMode, hmode, reduceCtorEq]
    | some mode => simp only [readMode, hmode, Option.some.injEq]

theorem exists_mem_readRules_iff {stored : Option Json} {p : Rule → Prop} :
    (∃ rule ∈ readRules stored, p rule) ↔ ∃ items, stored = some (.array items) ∧
      ∃ rule, Json.object rule ∈ items ∧ p (Rule.ofFields rule).update := by
  simp only [mem_readRules_iff]
  constructor
  · rintro ⟨_, ⟨items, rule, hitems, hitem, rfl⟩, hp⟩
    exact ⟨items, hitems, rule, hitem, hp⟩
  · rintro ⟨items, hitems, rule, hitem, hp⟩
    exact ⟨_, ⟨items, rule, hitems, hitem, rfl⟩, hp⟩

theorem forall_mem_readRules_iff {items : List Json} {p : Rule → Prop} :
    (∀ rule ∈ readRules (some (.array items)), p rule) ↔
      ∀ rule, Json.object rule ∈ items → p (Rule.ofFields rule).update := by
  constructor
  · intro h rule hitem
    exact h _ (mem_readRules_iff.mpr ⟨items, rule, rfl, hitem, rfl⟩)
  · intro h rule hrule
    obtain ⟨others, fields, hitems, hitem, rfl⟩ := mem_readRules_iff.mp hrule
    cases Json.array_injective (Option.some.inj hitems)
    exact h fields hitem

theorem readRules_ne_nil_iff {stored : Option Json} :
    readRules stored ≠ [] ↔
      ∃ items, stored = some (.array items) ∧ ∃ rule, Json.object rule ∈ items := by
  have hexists := @exists_mem_readRules_iff stored fun _ => True
  simp only [and_true] at hexists
  rw [← hexists]
  exact ⟨List.exists_mem_of_ne_nil _, fun ⟨rule, hrule⟩ => List.ne_nil_of_mem hrule⟩

end RuleSet

namespace RatePass

variable (pass : RatePass)

/-- The rule that is stored as this object matches once it is brought up to date and normal. -/
def Matches (rule : Fields Json) : Prop :=
  pass.engine.evaluateRule pass.snapshot (pass.engine.normalize (Rule.ofFields rule).update) =
    .matched

/-- The match type is a known one, and at least one of the stored rule objects matches, or there
are some and every one of them does. -/
def RulesMatch (settings : Fields Json) : Prop :=
  (settings.get? RuleSet.matchTypeKey = none ∨ settings.get? RuleSet.matchTypeKey = some .null ∨
      settings.get? RuleSet.matchTypeKey = some (.text "all") ∨
      settings.get? RuleSet.matchTypeKey = some (.text "any")) ∧
    ∃ items, settings.get? RuleSet.rulesKey = some (.array items) ∧
      (∃ rule, Json.object rule ∈ items) ∧
      ((settings.get? RuleSet.matchTypeKey = some (.text "any") ∧
          ∃ rule, Json.object rule ∈ items ∧ pass.Matches rule) ∨
        (settings.get? RuleSet.matchTypeKey ≠ some (.text "any") ∧
          ∀ rule, Json.object rule ∈ items → pass.Matches rule))

/-- The stored text of the option hides it from callers who are not privileged. -/
def Hides (option : PricedOption) : Prop :=
  pass.privileged = false ∧
    ∃ text settings, option.settings = some text ∧ Json.parse? text = some (.object settings) ∧
      (settings.get? RuleSet.hideKey = some (.bool true) ∨ pass.RulesMatch settings)

theorem matched_iff_rulesMatch (settings : Fields Json) :
    (pass.engine.ruleVerdict (pass.engine.normalizeSet (RuleSet.ofFields settings))
      pass.snapshot).matched = true ↔ pass.RulesMatch settings := by
  have hrules : (pass.engine.normalizeSet (RuleSet.ofFields settings)).rules =
      (RuleSet.readRules (settings.get? RuleSet.rulesKey)).map pass.engine.normalize := rfl
  have hmatch : (pass.engine.normalizeSet (RuleSet.ofFields settings)).matchMode = .any ↔
      settings.get? RuleSet.matchTypeKey = some (.text "any") :=
    RuleSet.matchMode_ofFields_iff settings
  rw [Engine.matched_ruleVerdict_iff, hrules, RulesMatch]
  apply and_congr (RuleSet.unrecognizedMode_ofFields_iff settings)
  rw [ne_eq, List.map_eq_nil_iff, ← ne_eq, RuleSet.readRules_ne_nil_iff]
  by_cases hany : settings.get? RuleSet.matchTypeKey = some (.text "any")
  · rw [if_pos (hmatch.mpr hany)]
    simp only [List.mem_map, exists_exists_and_eq_and]
    rw [RuleSet.exists_mem_readRules_iff]
    constructor
    · rintro ⟨-, items, hitems, rule, hitem, hmatches⟩
      exact ⟨items, hitems, ⟨rule, hitem⟩, .inl ⟨hany, rule, hitem, hmatches⟩⟩
    · rintro ⟨items, hitems, hsome, ⟨-, rule, hitem, hmatches⟩ | ⟨hall, -⟩⟩
      · exact ⟨⟨items, hitems, hsome⟩, items, hitems, rule, hitem, hmatches⟩
      · exact absurd hany hall
  · rw [if_neg fun h => hany (hmatch.mp h), List.forall_mem_map]
    constructor
    · rintro ⟨⟨items, hitems, hsome⟩, hmatches⟩
      rw [hitems, RuleSet.forall_mem_readRules_iff] at hmatches
      exact ⟨items, hitems, hsome, .inr ⟨hany, hmatches⟩⟩
    · rintro ⟨items, hitems, hsome, ⟨hcon, -⟩ | ⟨-, hmatches⟩⟩
      · exact absurd hcon hany
      · refine ⟨⟨items, hitems, hsome⟩, ?_⟩
        rw [hitems, RuleSet.forall_mem_readRules_iff]
        exact hmatches

/-- That an empty set is let through is no condition of its own: it has no rule to match. -/
theorem isHidden_decide_iff (engine : Engine) (set : RuleSet) (snapshot : Snapshot)
    (privileged : Bool) (h : engine.override = none) :
    (engine.decide set snapshot privileged).isHidden = true ↔ privileged = false ∧
      (set.hideUnconditionally = true ∨ (engine.ruleVerdict set snapshot).matched = true) := by
  have hverdict : engine.evaluate set snapshot = engine.ruleVerdict set snapshot :=
    Engine.evaluate_of_override snapshot h
  unfold Engine.decide
  cases privileged with
  | true => exact iff_of_false Bool.false_ne_true nofun
  | false =>
    rw [if_neg Bool.false_ne_true]
    by_cases hhide : set.hideUnconditionally = true
    · rw [if_pos hhide]
      exact iff_of_true rfl ⟨rfl, .inl hhide⟩
    · rw [if_neg hhide, hverdict]
      by_cases hempty : set.isEmpty = true
      · rw [if_pos hempty]
        refine iff_of_false Bool.false_ne_true ?_
        rintro ⟨-, hcon | hmatched⟩
        · exact hhide hcon
        · exact (Engine.matched_ruleVerdict_iff.mp hmatched).2.1 (List.isEmpty_iff.mp hempty)
      · rw [if_neg hempty]
        by_cases hmatched : (engine.ruleVerdict set snapshot).matched = true
        · rw [if_pos hmatched]
          exact iff_of_true rfl ⟨rfl, .inr hmatched⟩
        · rw [if_neg hmatched]
          refine iff_of_false Bool.false_ne_true ?_
          rintro ⟨-, hcon | hcon⟩
          · exact hhide hcon
          · exact hmatched hcon

/-- A settings text is passed over only if it holds no value. -/
theorem settingsText?_of_parse? {option : PricedOption} {text : String} {json : Json}
    (hstored : option.settings = some text) (hparse : Json.parse? text = some json) :
    settingsText? option = some text := by
  rw [settingsText?, hstored, Option.filter_some]
  apply if_pos
  refine decide_eq_true fun hblank => ?_
  rw [parse?_of_trim hblank] at hparse
  cases hparse

/-- An option whose text holds an object is decided on the set that the object is read as. -/
theorem decideOption_of_parse? {option : PricedOption} {text : String} {settings : Fields Json}
    (hstored : option.settings = some text)
    (hparse : Json.parse? text = some (.object settings)) :
    pass.decideOption option =
      pass.engine.decide (pass.engine.normalizeSet (RuleSet.ofFields settings)) pass.snapshot
        pass.privileged := by
  have hload : pass.engine.loadSettings text =
      .ok (pass.engine.normalizeSet (RuleSet.ofFields settings)) :=
    Engine.loadSettings_eq_ok_iff.mpr ⟨settings, hparse, rfl⟩
  simp only [decideOption, settingsText?_of_parse? hstored hparse, hload]

theorem isHidden_decideOption_iff (h : pass.engine.override = none) (option : PricedOption) :
    (pass.decideOption option).isHidden = true ↔ pass.Hides option := by
  constructor
  · intro hhidden
    unfold decideOption at hhidden
    split at hhidden
    · cases hhidden
    · rename_i text htext
      split at hhidden
      · cases hhidden
      · rename_i set hload
        obtain ⟨settings, hparse, rfl⟩ := Engine.loadSettings_eq_ok_iff.mp hload
        obtain ⟨hprivileged, hhide⟩ := (isHidden_decide_iff _ _ _ _ h).mp hhidden
        refine ⟨hprivileged, text, settings, ?_, hparse, ?_⟩
        · exact (Option.filter_eq_some_iff.mp htext).1
        · exact hhide.imp RuleSet.flag_eq_true_iff.mp (pass.matched_iff_rulesMatch settings).mp
  · rintro ⟨hprivileged, text, settings, hstored, hparse, hhide⟩
    rw [pass.decideOption_of_parse? hstored hparse]
    apply (isHidden_decide_iff _ _ _ _ h).mpr
    refine ⟨hprivileged, ?_⟩
    exact hhide.imp RuleSet.flag_eq_true_iff.mpr (pass.matched_iff_rulesMatch settings).mpr

open scoped Classical in
/-- Without an override the stored text of an option decides whether it is hidden, and the options
that remain are those that are not, in their order. -/
theorem filter_eq_of_override (h : pass.engine.override = none) :
    (∀ option, (pass.decideOption option).isHidden = true ↔ pass.Hides option) ∧
      ∀ options, pass.filter options = options.filter fun option => ¬pass.Hides option := by
  refine ⟨pass.isHidden_decideOption_iff h, ?_⟩
  intro options
  apply List.filter_congr
  intro option _
  rw [Bool.eq_iff_iff, Bool.not_eq_true', decide_eq_true_iff, ← Bool.not_eq_true]
  exact not_congr (pass.isHidden_decideOption_iff h option)

/-- Settings with one rule on whether the customer is logged in. -/
def loginSettings (answer : String) : Fields Json := .ofList [(RuleSet.rulesKey,
  .array [.object (.ofList [(Rule.typeKey, .text "user:logged_in"), ("logged_in", .text answer)])])]

/-- For a guest the first option is hidden by its flag and the second by its rule, and the third
remains, whose rule does not match. -/
theorem filter_eq_of_override_guest :
    ∃ engine, Engine.build .standard = .ok engine ∧ engine.override = none ∧
      (RatePass.mk engine (.ofFacts default []) false).filter
        [⟨"flat", some "\x7b\"hide_shipping_rate\":true\x7d"⟩,
          ⟨"courier", some (Json.object (loginSettings "no")).render⟩,
          ⟨"local", some (Json.object (loginSettings "yes")).render⟩] =
            [⟨"local", some (Json.object (loginSettings "yes")).render⟩] := by
  have hstandard : (Engine.build .standard).toOption.any (fun engine =>
      let verdict answer := (engine.ruleVerdict
        (engine.normalizeSet (RuleSet.ofFields (loginSettings answer)))
        (.ofFacts default [])).matched
      verdict "no" && !verdict "yes") = true := by
    decide +kernel
  obtain ⟨engine, hengine, hverdicts⟩ := Engine.exists_standard_of_any hstandard
  simp only [Bool.and_eq_true, Bool.not_eq_true'] at hverdicts
  obtain ⟨hmatched, hunmatched⟩ := hverdicts
  have hoverride : engine.override = none := (Engine.eq_of_build hengine).2
  generalize hpass : RatePass.mk engine (.ofFacts default []) false = pass
  have hflag : pass.Hides ⟨"flat", some "\x7b\"hide_shipping_rate\":true\x7d"⟩ := by
    have htext : "\x7b\"hide_shipping_rate\":true\x7d" =
        (Json.object (.ofList [(RuleSet.hideKey, .bool true)])).render := by
      decide +kernel
    have hparse := @Json.parse?_render (.object (.ofList [(RuleSet.hideKey, .bool true)]))
      (by decide) (by decide)
    subst hpass
    exact ⟨rfl, _, _, rfl, htext ▸ hparse, .inl rfl⟩
  have hrule : pass.Hides ⟨"courier", some (Json.object (loginSettings "no")).render⟩ := by
    have hparse := @Json.parse?_render (.object (loginSettings "no"))
      (by decide +kernel) (by decide +kernel)
    subst hpass
    exact ⟨rfl, _, _, rfl, hparse, .inr ((matched_iff_rulesMatch _ _).mp hmatched)⟩
  have hshown : ¬pass.Hides ⟨"local", some (Json.object (loginSettings "yes")).render⟩ := by
    have hparse := @Json.parse?_render (.object (loginSettings "yes"))
      (by decide +kernel) (by decide +kernel)
    subst hpass
    rintro ⟨-, text, settings, hstored, hread, hhide⟩
    cases hstored
    have hview := congrArg Json.view (Option.some.inj (hread.symm.trans hparse))
    rw [Json.view_object, Json.view_object] at hview
    cases hview
    rcases hhide with hcon | hrules
    · cases hcon
    · rw [(matched_iff_rulesMatch _ _).mpr hrules] at hunmatched
      cases hunmatched
  have hnone : pass.engine.override = none := hpass ▸ hoverride
  refine ⟨engine, hengine, hoverride, ?_⟩
  rw [hpass, (filter_eq_of_override pass hnone).2, List.filter_cons_of_neg (by simpa using hflag),
    List.filter_cons_of_neg (by simpa using hrule), List.filter_cons_of_pos (by simpa using hshown),
    List.filter_nil]

end RatePass

end ShippingRules
