import ShippingRules.Evaluator.Basic
import ShippingRules.Proofs.Calendar

/-!
Rules on instants, for times and for dates. The instants of a rule are its literals, pinned to the
moment of the snapshot. Without a first instant nothing matches; otherwise exactly one of before,
after and now is the case, a range needs both ends and includes them, and outside is the opposite of
inside. If the literals are times of day, the day has no part in the answer.
-/
namespace ShippingRules

/-- The literal that a rule has under a key, if the parameter is one or is the text of one. -/
def Rule.literal? (rule : Rule) (key : String) : Option Temporal :=
  (rule.get? key).bind Value.asTemporal?

namespace Evaluator

/-- What the operators answer at `now` on a rule with a start, and with an end if it can be read. -/
structure AnswersRange (answer : String → Bool) (now start : Moment) (stop : Option Moment) :
    Prop where
  before : answer "before" = true ↔ now.Precedes start
  after : answer "after" = true ↔ start.Precedes now
  exclusive :
    (answer "before" = true ∧ answer "after" = false ∧ now ≠ start) ∨
      (answer "before" = false ∧ answer "after" = true ∧ now ≠ start) ∨
      (answer "before" = false ∧ answer "after" = false ∧ now = start)
  endless : stop = none → answer "between" = false ∧ answer "not_between" = false
  inside : ∀ last, stop = some last →
    (answer "between" = true ↔ ¬now.Precedes start ∧ ¬last.Precedes now)
  outside : ∀ last, stop = some last → answer "not_between" = !answer "between"

/-- Every literal that the rule is decided by is a time of day: the first one, and the second one
for a range. -/
structure NamesTimes (kind : InstantKind) (rule : Rule) : Prop where
  first : ∀ t, rule.literal? kind.firstKey = some t → ∃ time, t = .timeOfDay time
  second : rule.operator ∈ ["between", "not_between"] →
    ∀ t, rule.literal? kind.secondKey = some t → ∃ time, t = .timeOfDay time

variable {kind : InstantKind} {rule : Rule} {snapshot : Snapshot} {t u : Temporal}

theorem momentOf?_eq_map (rule : Rule) (key : String) (now : Moment) :
    momentOf? rule key now = (rule.literal? key).map (·.resolve now) := by
  simp only [momentOf?, Rule.literal?, Option.bind_eq_bind]
  cases rule.get? key with
  | none => rfl
  | some value =>
    simp only [Option.bind_some]
    cases value.asTemporal? <;> rfl

/-- Under another operator a rule has the same literals. -/
theorem momentOf?_withOperator (rule : Rule) (op key : String) (now : Moment) :
    momentOf? { rule with operator := op } key now = (rule.literal? key).map (·.resolve now) :=
  momentOf?_eq_map _ key now

theorem instant_of_no_start (h : rule.literal? kind.firstKey = none) :
    instant kind rule snapshot = false := by
  simp only [instant, momentOf?_eq_map, h, Option.map_none]

theorem instant_of_not_temporal (h : ∀ op ∈ Operator.temporal, rule.operator? ≠ some op) :
    instant kind rule snapshot = false := by
  simp only [instant]
  cases momentOf? rule kind.firstKey snapshot.now with
  | none => rfl
  | some start =>
    cases hop : rule.operator? with
    | none => rfl
    | some op =>
      cases op
      case before => exact absurd hop (h .before (by decide))
      case after => exact absurd hop (h .after (by decide))
      case between => exact absurd hop (h .between (by decide))
      case notBetween => exact absurd hop (h .notBetween (by decide))
      all_goals rfl

section Operators

variable (hstart : rule.literal? kind.firstKey = some t)
include hstart

theorem instant_before :
    instant kind { rule with operator := "before" } snapshot =
      snapshot.now.isBefore (t.resolve snapshot.now) := by
  have hop : Rule.operator? { rule with operator := "before" } = some .before :=
    rule.operator?_withOperator .before
  simp only [instant, hop, momentOf?_withOperator, hstart, Option.map_some]

theorem instant_after :
    instant kind { rule with operator := "after" } snapshot =
      (t.resolve snapshot.now).isBefore snapshot.now := by
  have hop : Rule.operator? { rule with operator := "after" } = some .after :=
    rule.operator?_withOperator .after
  simp only [instant, hop, momentOf?_withOperator, hstart, Option.map_some]

theorem instant_between :
    instant kind { rule with operator := "between" } snapshot =
      (rule.literal? kind.secondKey).any fun u =>
        !snapshot.now.isBefore (t.resolve snapshot.now) &&
          !(u.resolve snapshot.now).isBefore snapshot.now := by
  have hop : Rule.operator? { rule with operator := "between" } = some .between :=
    rule.operator?_withOperator .between
  simp only [instant, hop, momentOf?_withOperator, hstart, Option.map_some]
  cases rule.literal? kind.secondKey <;> rfl

theorem instant_notBetween :
    instant kind { rule with operator := "not_between" } snapshot =
      (rule.literal? kind.secondKey).any fun u =>
        snapshot.now.isBefore (t.resolve snapshot.now) ||
          (u.resolve snapshot.now).isBefore snapshot.now := by
  have hop : Rule.operator? { rule with operator := "not_between" } = some .notBetween :=
    rule.operator?_withOperator .notBetween
  simp only [instant, hop, momentOf?_withOperator, hstart, Option.map_some]
  cases rule.literal? kind.secondKey <;> rfl

end Operators

theorem answersRange (hstart : rule.literal? kind.firstKey = some t) :
    AnswersRange (fun op => instant kind { rule with operator := op } snapshot) snapshot.now
      (t.resolve snapshot.now) ((rule.literal? kind.secondKey).map (·.resolve snapshot.now)) where
  before := by rw [instant_before hstart, Moment.isBefore_iff]
  after := by rw [instant_after hstart, Moment.isBefore_iff]
  exclusive := by
    simp only [instant_before hstart, instant_after hstart, Bool.eq_false_iff, ne_eq,
      Moment.isBefore_iff]
    obtain hbefore | hnow | hafter :=
      Moment.precedes_trichotomy snapshot.now (t.resolve snapshot.now)
    · exact .inl ⟨hbefore, hbefore.not_precedes, hbefore.ne⟩
    · exact .inr (.inr ⟨fun hlt => hlt.ne hnow, fun hlt => hlt.ne hnow.symm, hnow⟩)
    · exact .inr (.inl ⟨hafter.not_precedes, hafter, hafter.ne.symm⟩)
  endless := by
    intro hnone
    rw [instant_between hstart, instant_notBetween hstart, Option.map_eq_none_iff.mp hnone]
    exact ⟨rfl, rfl⟩
  inside := by
    intro last hlast
    obtain ⟨u, hu, rfl⟩ := Option.map_eq_some_iff.mp hlast
    rw [instant_between hstart, hu, Option.any_some, Bool.and_eq_true, Bool.not_eq_true',
      Bool.not_eq_true', Bool.eq_false_iff, Bool.eq_false_iff, ne_eq, ne_eq, Moment.isBefore_iff,
      Moment.isBefore_iff]
  outside := by
    intro last hlast
    obtain ⟨u, hu, rfl⟩ := Option.map_eq_some_iff.mp hlast
    rw [instant_between hstart, instant_notBetween hstart, hu, Option.any_some, Option.any_some,
      Bool.not_and, Bool.not_not, Bool.not_not]

section TimesOfDay

theorem isBefore_sameDay (day : Date) (a b : ClockTime) :
    Moment.isBefore ⟨day, a⟩ ⟨day, b⟩ = (a.compare b == .lt) := by
  rw [Moment.isBefore, Moment.compare, Date.compare_eq_eq_iff.mpr rfl, Ordering.eq_then]

/-- On whatever day, a moment is before a time of day or after it by its own time alone. -/
theorem isBefore_timeOfDay (now : Moment) (time : ClockTime) :
    now.isBefore ((Temporal.timeOfDay time).resolve now) = (now.time.compare time == .lt) ∧
      ((Temporal.timeOfDay time).resolve now).isBefore now = (time.compare now.time == .lt) :=
  ⟨isBefore_sameDay now.date now.time time, isBefore_sameDay now.date time now.time⟩

theorem instant_of_namesTimes (hnames : NamesTimes kind rule) {other : Snapshot}
    (htime : other.now.time = snapshot.now.time) :
    instant kind rule other = instant kind rule snapshot := by
  cases hstart : rule.literal? kind.firstKey with
  | none => rw [instant_of_no_start hstart, instant_of_no_start hstart]
  | some t =>
    obtain ⟨start, rfl⟩ := hnames.first t hstart
    simp only [instant, momentOf?_eq_map, hstart, Option.map_some, isBefore_timeOfDay, htime]
    cases hop : rule.operator? with
    | none => rfl
    | some op =>
      have hname : rule.operator = op.name :=
        ((Operator.ofName?_eq_some_iff rule.operator op).mp hop).symm
      cases hstop : rule.literal? kind.secondKey with
      | none => cases op <;> rfl
      | some u =>
        simp only [Option.map_some]
        cases op with
        | between | notBetween =>
          obtain ⟨stop, rfl⟩ := hnames.second (hname ▸ by decide) u hstop
          simp only [isBefore_timeOfDay, htime]
        | _ => rfl

end TimesOfDay

/-- What rules on instants answer, for any rule and any moment: nothing without a first literal,
what the order of moments says with one, nothing under the operators of other rules, and, for
literals that are times of day, the same on every day. -/
theorem instant_answers (kind : InstantKind) (rule : Rule) (snapshot : Snapshot) :
    let answer (op : String) := instant kind { rule with operator := op } snapshot
    (rule.literal? kind.firstKey = none → ∀ op, answer op = false) ∧
      (∀ t, rule.literal? kind.firstKey = some t →
        AnswersRange answer snapshot.now (t.resolve snapshot.now)
          ((rule.literal? kind.secondKey).map (·.resolve snapshot.now))) ∧
      (∀ op, op ∉ ["before", "after", "between", "not_between"] → answer op = false) ∧
      (NamesTimes kind rule → ∀ other : Snapshot, other.now.time = snapshot.now.time →
        instant kind rule other = instant kind rule snapshot) := by
  intro answer
  refine ⟨fun hnone op => instant_of_no_start hnone, fun t hstart => answersRange hstart,
    fun op hop => ?_, fun hnames other htime => instant_of_namesTimes hnames htime⟩
  refine instant_of_not_temporal fun legal hlegal hname => hop ?_
  have hnames : ∀ legal ∈ Operator.temporal,
      legal.name ∈ ["before", "after", "between", "not_between"] := by decide
  rw [← (Operator.ofName?_eq_some_iff op legal).mp hname]
  exact hnames legal hlegal

/-- A rule on the hours before ten and after half past. -/
def awayHour : Rule :=
  { Rule.new "date:time" "not_between" with
    params := .ofList [("time_one", .text "22:00"), ("time_two", .text "22:30:00")] }

/-- Within a leap second at midnight. -/
def leapMoment (day : Date) : Moment := ⟨day, ⟨23, 59, 59, 1500000000, by decide⟩⟩

theorem instant_answers_awayHour :
    let early : Snapshot := .ofFacts (leapMoment default) []
    let late : Snapshot := .ofFacts (leapMoment ⟨2024, 2, 29, by decide⟩) []
    NamesTimes .time awayHour ∧
      awayHour.literal? "time_one" = some (.timeOfDay ⟨22, 0, 0, 0, by decide⟩) ∧
      instant .time { awayHour with operator := "after" } early = true ∧
      instant .time awayHour late = instant .time awayHour early := by
  intro early late
  have hfirst : awayHour.literal? "time_one" = some (.timeOfDay ⟨22, 0, 0, 0, by decide⟩) := by
    decide +kernel
  have hsecond : awayHour.literal? "time_two" = some (.timeOfDay ⟨22, 30, 0, 0, by decide⟩) := by
    decide +kernel
  have hnames : NamesTimes .time awayHour :=
    ⟨fun t ht => ⟨_, Option.some.inj (ht.symm.trans hfirst)⟩,
      fun _ u hu => ⟨_, Option.some.inj (hu.symm.trans hsecond)⟩⟩
  obtain ⟨-, hrange, -, hday⟩ := instant_answers .time awayHour early
  have hpassed : Moment.Precedes ⟨early.now.date, ⟨22, 0, 0, 0, by decide⟩⟩ early.now :=
    .inr ⟨rfl, .inl (by decide)⟩
  exact ⟨hnames, hfirst, (hrange _ hfirst).after.mpr hpassed, hday hnames late rfl⟩

end Evaluator

end ShippingRules
