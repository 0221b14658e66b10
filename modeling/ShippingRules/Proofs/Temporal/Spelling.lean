import ShippingRules.Temporal.Literal

/-!
The literals of instants taken apart. A spelling is the body of a literal as runs of digits of
fixed lengths with the marks between them, and a reading of a text is a spelling with the spaces and
tabs around it. The parts are told apart by the characters alone, so no text has two readings.
-/
namespace ShippingRules.Temporal

/-- Decimal digits, at least `least` and at most `most` of them. -/
@[ext]
structure DigitRun (least most : Nat) where
  chars : List Char
  isDigit : ∀ c ∈ chars, c.isDigit = true
  least_le : least ≤ chars.length
  le_most : chars.length ≤ most

/-- The number that the digits are written for. -/
def DigitRun.value {least most : Nat} (run : DigitRun least most) : Nat :=
  Nat.ofDigitChars 10 run.chars 0

/-- The parts of `H:MM` or `H:MM:SS`. -/
@[ext]
structure TimeSpelling where
  hour : DigitRun 1 2
  minute : DigitRun 2 2
  second : Option (DigitRun 2 2)

namespace TimeSpelling

def secondChars : Option (DigitRun 2 2) → List Char
  | none => []
  | some run => ':' :: run.chars

def toChars (spelling : TimeSpelling) : List Char :=
  spelling.hour.chars ++ ':' :: (spelling.minute.chars ++ secondChars spelling.second)

/-- The time has these numbers, zero standing for seconds that are left out. -/
structure Names (spelling : TimeSpelling) (t : ClockTime) : Prop where
  hour : t.hour = spelling.hour.value
  minute : t.minute = spelling.minute.value
  second : t.second = (spelling.second.map DigitRun.value).getD 0
  nano : t.nano = 0

end TimeSpelling

/-- The parts of `YYYY-MM-DD`. -/
@[ext]
structure DateSpelling where
  year : DigitRun 4 4
  month : DigitRun 2 2
  day : DigitRun 2 2

namespace DateSpelling

def toChars (spelling : DateSpelling) : List Char :=
  spelling.year.chars ++ '-' :: (spelling.month.chars ++ '-' :: spelling.day.chars)

structure Names (spelling : DateSpelling) (d : Date) : Prop where
  year : d.year = spelling.year.value
  month : d.month = spelling.month.value
  day : d.day = spelling.day.value

end DateSpelling

/-- The body of a literal: a time, a date, or both with one mark between them. -/
inductive Spelling where
  | timeOfDay (time : TimeSpelling)
  | date (date : DateSpelling)
  | moment (date : DateSpelling) (mark : Char) (isMark : mark = 'T' ∨ mark = ' ')
      (time : TimeSpelling)

namespace Spelling

def toChars : Spelling → List Char
  | .timeOfDay clock => clock.toChars
  | .date day => day.toChars
  | .moment day mark _ clock => day.toChars ++ mark :: clock.toChars

/-- The instant that a spelling is written for. Times and dates exist, so a spelling whose numbers
are on no clock or in no calendar names nothing. -/
inductive Names : Spelling → Temporal → Prop
  | timeOfDay {clock : TimeSpelling} {t : ClockTime} (named : clock.Names t) :
      Names (.timeOfDay clock) (.timeOfDay t)
  | date {day : DateSpelling} {d : Date} (named : day.Names d) : Names (.date day) (.date d)
  | moment {day : DateSpelling} {mark : Char} {isMark : mark = 'T' ∨ mark = ' '}
      {clock : TimeSpelling} {m : Moment} (dateNamed : day.Names m.date)
      (timeNamed : clock.Names m.time) : Names (.moment day mark isMark clock) (.moment m)

end Spelling

/-- Spaces and tabs only. -/
def Gap (s : List Char) : Prop := ∀ c ∈ s, c = ' ' ∨ c = '\t'

/-- A spelling with the spaces and tabs around it. -/
@[ext]
structure Reading where
  before : List Char
  body : Spelling
  behind : List Char
  before_gap : Gap before
  behind_gap : Gap behind

def Reading.toChars (reading : Reading) : List Char :=
  reading.before ++ (reading.body.toChars ++ reading.behind)

namespace DigitRun

theorem length_eq {n : Nat} (run : DigitRun n n) : run.chars.length = n :=
  Nat.le_antisymm run.le_most run.least_le

def single (c : Char) (h : c.isDigit = true) : DigitRun 1 1 where
  chars := [c]
  isDigit := by simpa using h
  least_le := Nat.le_refl 1
  le_most := Nat.le_refl 1

def append {m n : Nat} (a : DigitRun m m) (b : DigitRun n n) : DigitRun (m + n) (m + n) where
  chars := a.chars ++ b.chars
  isDigit := fun c hc => (List.mem_append.mp hc).elim (a.isDigit c) (b.isDigit c)
  least_le := by simp only [List.length_append, length_eq, Nat.le_refl]
  le_most := by simp only [List.length_append, length_eq, Nat.le_refl]

/-- The same digits where fewer or more are allowed. -/
def relax {least most low high : Nat} (run : DigitRun least most) (hlow : low ≤ least)
    (hhigh : most ≤ high) : DigitRun low high where
  chars := run.chars
  isDigit := run.isDigit
  least_le := Nat.le_trans hlow run.least_le
  le_most := Nat.le_trans run.le_most hhigh

theorem value_single (c : Char) (h : c.isDigit = true) :
    (single c h).value = c.toNat - '0'.toNat := by
  rw [value, single, Nat.ofDigitChars_cons, Nat.ofDigitChars_nil]
  omega

theorem value_append {m n : Nat} (a : DigitRun m m) (b : DigitRun n n) :
    (a.append b).value = Nat.pow 10 n * a.value + b.value := by
  rw [value, append, Nat.ofDigitChars_append, Nat.ofDigitChars_eq_ofDigitChars_zero, b.length_eq]
  rfl

theorem exists_single (run : DigitRun 1 1) : ∃ c h, run = single c h := by
  obtain ⟨c, hchars⟩ := List.length_eq_one_iff.mp run.length_eq
  have hc : c.isDigit = true := run.isDigit c (by simp [hchars])
  exact ⟨c, hc, DigitRun.ext hchars⟩

theorem exists_append {m n : Nat} (run : DigitRun (m + n) (m + n)) :
    ∃ (a : DigitRun m m) (b : DigitRun n n), run = a.append b := by
  have hlength := run.length_eq
  refine ⟨⟨run.chars.take m, fun c hc => run.isDigit c (List.mem_of_mem_take hc), ?_, ?_⟩,
    ⟨run.chars.drop m, fun c hc => run.isDigit c (List.mem_of_mem_drop hc), ?_, ?_⟩,
    DigitRun.ext (List.take_append_drop m run.chars).symm⟩
  all_goals
    simp only [List.length_take, List.length_drop, hlength]
    omega

/-- A run is not empty, and it starts with a digit. -/
theorem exists_cons {least most : Nat} (run : DigitRun least most) (h : 0 < least) :
    ∃ c rest, run.chars = c :: rest ∧ c.isDigit = true := by
  have hlength := Nat.lt_of_lt_of_le h run.least_le
  obtain ⟨c, rest, hchars⟩ := List.exists_cons_of_length_pos hlength
  exact ⟨c, rest, hchars, run.isDigit c (by simp [hchars])⟩

/-- Runs are told apart from what follows them by the first character that is no digit. -/
theorem chars_inj {least most low high : Nat} {run : DigitRun least most}
    {other : DigitRun low high} {c d : Char} {s t : List Char} (hc : c.isDigit = false)
    (hd : d.isDigit = false) (h : run.chars ++ c :: s = other.chars ++ d :: t) :
    run.chars = other.chars ∧ c = d ∧ s = t := by
  have htake := congrArg (List.takeWhile Char.isDigit) h
  rw [List.takeWhile_append_of_pos run.isDigit, List.takeWhile_append_of_pos other.isDigit,
    List.takeWhile_cons, List.takeWhile_cons, hc, hd] at htake
  have hchars : run.chars = other.chars := by simpa using htake
  rw [hchars] at h
  exact ⟨hchars, List.cons.inj (List.append_cancel_left h)⟩

end DigitRun

section Starting

theorem TimeSpelling.exists_cons (clock : TimeSpelling) :
    ∃ c rest, clock.toChars = c :: rest ∧ c.isDigit = true := by
  obtain ⟨c, rest, hchars, hc⟩ := clock.hour.exists_cons Nat.one_pos
  exact ⟨c, rest ++ ':' :: (clock.minute.chars ++ secondChars clock.second),
    by rw [toChars, hchars, List.cons_append], hc⟩

theorem DateSpelling.exists_cons (day : DateSpelling) :
    ∃ c rest, day.toChars = c :: rest ∧ c.isDigit = true := by
  obtain ⟨c, rest, hchars, hc⟩ := day.year.exists_cons (by decide)
  exact ⟨c, rest ++ '-' :: (day.month.chars ++ '-' :: day.day.chars),
    by rw [toChars, hchars, List.cons_append], hc⟩

theorem Spelling.exists_cons (spelling : Spelling) :
    ∃ c rest, spelling.toChars = c :: rest ∧ c.isDigit = true := by
  cases spelling with
  | timeOfDay clock => exact clock.exists_cons
  | date day => exact day.exists_cons
  | moment day mark _ clock =>
    obtain ⟨c, rest, hchars, hc⟩ := day.exists_cons
    exact ⟨c, rest ++ mark :: clock.toChars, by rw [toChars, hchars, List.cons_append], hc⟩

theorem gap_iff {s : List Char} : s.all isGap = true ↔ Gap s := by
  simp only [List.all_eq_true, isGap, decide_eq_true_eq, Gap]

theorem isGap_of_isDigit {c : Char} (h : c.isDigit = true) : isGap c = false := by
  refine Bool.eq_false_iff.mpr fun hgap => ?_
  rcases of_decide_eq_true hgap with rfl | rfl
  · exact absurd h (by decide)
  · exact absurd h (by decide)

/-- A gap does not go on with a time. -/
theorem Gap.ne_cons_timeSpelling {s : List Char} (h : Gap s) (mark : Char) (clock : TimeSpelling)
    (rest : List Char) : s ≠ mark :: (clock.toChars ++ rest) := by
  obtain ⟨c, tail, hchars, hc⟩ := clock.exists_cons
  rintro rfl
  have hgap := List.all_eq_true.mp (gap_iff.mpr h) c (by simp [hchars])
  rw [isGap_of_isDigit hc] at hgap
  exact absurd hgap Bool.false_ne_true

/-- The mark after the first digits tells a time from a date. -/
theorem timeSpelling_ne_dateSpelling (clock : TimeSpelling) (day : DateSpelling)
    (s t : List Char) : clock.toChars ++ s ≠ day.toChars ++ t := by
  intro h
  simp only [TimeSpelling.toChars, DateSpelling.toChars, List.append_assoc, List.cons_append] at h
  obtain ⟨-, hmark, -⟩ := DigitRun.chars_inj (by decide) (by decide) h
  exact absurd hmark (by decide)

end Starting

section Uniqueness

theorem DigitRun.append_inj {n : Nat} {a b : DigitRun n n} {s t : List Char}
    (h : a.chars ++ s = b.chars ++ t) : a = b ∧ s = t := by
  obtain ⟨hchars, hrest⟩ := List.append_inj h (a.length_eq.trans b.length_eq.symm)
  exact ⟨DigitRun.ext hchars, hrest⟩

theorem TimeSpelling.append_inj {a b : TimeSpelling} {s t : List Char} (hs : Gap s) (ht : Gap t)
    (h : a.toChars ++ s = b.toChars ++ t) : a = b ∧ s = t := by
  have hcolon : ∀ {u v : List Char}, Gap u → u ≠ ':' :: v := by
    rintro u v hu rfl
    exact absurd (hu ':' List.mem_cons_self) (by decide)
  simp only [toChars, List.append_assoc, List.cons_append] at h
  obtain ⟨hhour, -, h⟩ := DigitRun.chars_inj (by decide) (by decide) h
  obtain ⟨hminute, h⟩ := DigitRun.append_inj h
  have hsecond : a.second = b.second ∧ s = t := by
    cases ha : a.second with
    | none =>
      cases hb : b.second with
      | none => exact ⟨rfl, by simpa [ha, hb, secondChars] using h⟩
      | some run => exact absurd (by simpa [ha, hb, secondChars] using h) (hcolon hs)
    | some run =>
      cases hb : b.second with
      | none => exact absurd (by simpa [ha, hb, secondChars] using h.symm) (hcolon ht)
      | some other =>
        rw [ha, hb, secondChars, secondChars, List.cons_append, List.cons_append] at h
        obtain ⟨rfl, hrest⟩ := DigitRun.append_inj (List.cons.inj h).2
        exact ⟨rfl, hrest⟩
  exact ⟨TimeSpelling.ext (DigitRun.ext hhour) hminute hsecond.1, hsecond.2⟩

theorem DateSpelling.append_inj {a b : DateSpelling} {s t : List Char}
    (h : a.toChars ++ s = b.toChars ++ t) : a = b ∧ s = t := by
  simp only [toChars, List.append_assoc, List.cons_append] at h
  obtain ⟨hyear, h⟩ := DigitRun.append_inj h
  obtain ⟨hmonth, h⟩ := DigitRun.append_inj (List.cons.inj h).2
  obtain ⟨hday, h⟩ := DigitRun.append_inj (List.cons.inj h).2
  exact ⟨DateSpelling.ext hyear hmonth hday, h⟩

theorem Spelling.append_inj {a b : Spelling} {s t : List Char} (hs : Gap s) (ht : Gap t)
    (h : a.toChars ++ s = b.toChars ++ t) : a = b ∧ s = t := by
  cases a with
  | timeOfDay clock =>
    cases b with
    | timeOfDay other =>
      obtain ⟨rfl, hrest⟩ := TimeSpelling.append_inj hs ht h
      exact ⟨rfl, hrest⟩
    | date day => exact absurd h (timeSpelling_ne_dateSpelling clock day s t)
    | moment day mark hmark other =>
      rw [toChars, toChars, List.append_assoc] at h
      exact absurd h (timeSpelling_ne_dateSpelling clock day s _)
  | date day =>
    cases b with
    | timeOfDay clock => exact absurd h.symm (timeSpelling_ne_dateSpelling clock day t s)
    | date other =>
      obtain ⟨rfl, hrest⟩ := DateSpelling.append_inj h
      exact ⟨rfl, hrest⟩
    | moment other mark hmark clock =>
      rw [toChars, toChars, List.append_assoc] at h
      exact absurd (DateSpelling.append_inj h).2 (hs.ne_cons_timeSpelling mark clock t)
  | moment day mark hmark clock =>
    rw [toChars, List.append_assoc, List.cons_append] at h
    cases b with
    | timeOfDay other => exact absurd h.symm (timeSpelling_ne_dateSpelling other day t _)
    | date other =>
      exact absurd (DateSpelling.append_inj h).2.symm (ht.ne_cons_timeSpelling mark clock s)
    | moment other mark' hmark' clock' =>
      rw [toChars, List.append_assoc, List.cons_append] at h
      obtain ⟨rfl, hbehind⟩ := DateSpelling.append_inj h
      obtain ⟨rfl, htime⟩ := List.cons.inj hbehind
      obtain ⟨rfl, hrest⟩ := TimeSpelling.append_inj hs ht htime
      exact ⟨rfl, hrest⟩

end Uniqueness

namespace Reading

/-- The blanks in front of a literal end at its first digit. -/
theorem dropWhile_toChars (reading : Reading) :
    reading.toChars.dropWhile isGap = reading.body.toChars ++ reading.behind := by
  obtain ⟨c, rest, hchars, hc⟩ := reading.body.exists_cons
  have hbefore := List.all_eq_true.mp (gap_iff.mpr reading.before_gap)
  rw [toChars, List.dropWhile_append_of_pos hbefore, hchars, List.cons_append,
    List.dropWhile_cons, isGap_of_isDigit hc]
  rfl

theorem toChars_inj {a b : Reading} (h : a.toChars = b.toChars) : a = b := by
  have hbody := congrArg (List.dropWhile isGap) h
  rw [a.dropWhile_toChars, b.dropWhile_toChars] at hbody
  obtain ⟨hspelling, hbehind⟩ := Spelling.append_inj a.behind_gap b.behind_gap hbody
  have hbefore : a.before = b.before := by
    rw [toChars, toChars, hspelling, hbehind] at h
    exact List.append_cancel_right h
  exact Reading.ext hbefore hspelling hbehind

end Reading

end ShippingRules.Temporal
