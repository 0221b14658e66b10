import ShippingRules.Calendar

/-!
The order of moments. Dates that exist follow each other as their day numbers do, and no two have
one number. A moment precedes another if its day comes first, on one day if its second does, and
within a second if its fraction is less; the fractions of a leap second are beyond those of the
second that it follows and before the next second.
-/
namespace ShippingRules

/-- The seconds from midnight to this reading, its fraction left out. -/
def ClockTime.secondOfDay (t : ClockTime) : Nat := (t.hour * 60 + t.minute) * 60 + t.second

/-- Earlier in time: by the day, then by the second, then by the nanosecond. -/
def Moment.Precedes (a b : Moment) : Prop :=
  a.date.dayNumber < b.date.dayNumber ∨
    a.date = b.date ∧
      (a.time.secondOfDay < b.time.secondOfDay ∨
        a.time.secondOfDay = b.time.secondOfDay ∧ a.time.nano < b.time.nano)

namespace Date

section Years

/-- The number of the last day before the year. -/
def daysBeforeYear (year : Int) : Int :=
  365 * (year - 1) + (year - 1) / 4 - (year - 1) / 100 + (year - 1) / 400

def daysInYear (year : Int) : Nat := if isLeapYear year then 366 else 365

theorem daysBeforeYear_succ (year : Int) :
    daysBeforeYear (year + 1) = daysBeforeYear year + daysInYear year := by
  unfold daysBeforeYear daysInYear isLeapYear
  simp only [decide_eq_true_eq]
  split <;> omega

theorem daysBeforeYear_mono {a b : Int} (h : a ≤ b) : daysBeforeYear a ≤ daysBeforeYear b := by
  unfold daysBeforeYear
  omega

theorem daysBeforeMonth_add_le (year : Int) {m n : Nat} (hm : 1 ≤ m) (h : m < n) :
    daysBeforeMonth year m + daysInMonth year m ≤ daysBeforeMonth year n := by
  induction n with
  | zero => omega
  | succ n ih =>
    obtain ⟨k, rfl⟩ : ∃ k, n = k + 1 := ⟨n - 1, by omega⟩
    rw [daysBeforeMonth]
    by_cases hlast : m = k + 1
    · subst hlast
      exact Nat.le_refl _
    · have hearlier := ih (by omega)
      omega

theorem daysBeforeMonth_thirteen (year : Int) : daysBeforeMonth year 13 = daysInYear year := by
  unfold daysInYear
  cases h : isLeapYear year <;> simp [daysBeforeMonth, daysInMonth, h]

end Years

def dayOfYear (d : Date) : Nat := daysBeforeMonth d.year d.month + d.day

theorem dayNumber_eq (d : Date) : d.dayNumber = daysBeforeYear d.year + d.dayOfYear := by
  rw [dayNumber, daysBeforeYear, dayOfYear, Int.natCast_add, Int.add_assoc]

theorem dayOfYear_pos (d : Date) : 0 < d.dayOfYear := by
  have hday := d.existing.2.2.2.2.1
  unfold dayOfYear
  omega

theorem dayOfYear_le (d : Date) : d.dayOfYear ≤ daysInYear d.year := by
  obtain ⟨-, -, hmonth, hyear, -, hday⟩ := d.existing
  have hbound := daysBeforeMonth_add_le d.year hmonth (show d.month < 13 by omega)
  rw [daysBeforeMonth_thirteen] at hbound
  unfold dayOfYear
  omega

variable {a b : Date}

theorem dayNumber_lt_of_year (h : a.year < b.year) : a.dayNumber < b.dayNumber := by
  have hnext := daysBeforeYear_succ a.year
  have hyears : daysBeforeYear (a.year + 1) ≤ daysBeforeYear b.year := daysBeforeYear_mono h
  have hlast := a.dayOfYear_le
  have hfirst := b.dayOfYear_pos
  rw [dayNumber_eq, dayNumber_eq]
  omega

theorem dayNumber_lt_of_month (hyear : a.year = b.year) (h : a.month < b.month) :
    a.dayNumber < b.dayNumber := by
  obtain ⟨-, -, hmonth, -, -, hlast⟩ := a.existing
  have hfirst := b.existing.2.2.2.2.1
  have hmonths := daysBeforeMonth_add_le a.year hmonth h
  rw [dayNumber_eq, dayNumber_eq, dayOfYear, dayOfYear, ← hyear]
  omega

theorem dayNumber_lt_of_day (hyear : a.year = b.year) (hmonth : a.month = b.month)
    (h : a.day < b.day) : a.dayNumber < b.dayNumber := by
  rw [dayNumber_eq, dayNumber_eq, dayOfYear, dayOfYear, hyear, hmonth]
  omega

theorem compare_eq_lt_iff_parts :
    a.compare b = .lt ↔ a.year < b.year ∨ a.year = b.year ∧
      (a.month < b.month ∨ a.month = b.month ∧ a.day < b.day) := by
  simp only [compare, Ordering.then_eq_lt, Int.compare_eq_lt, Int.compare_eq_eq,
    Nat.compare_eq_lt, Nat.compare_eq_eq]

theorem eq_of_parts (hyear : a.year = b.year) (hmonth : a.month = b.month) (hday : a.day = b.day) :
    a = b := by
  obtain ⟨year, month, day, hexists⟩ := a
  subst hyear hmonth hday
  rfl

theorem dayNumber_lt_of_compare (h : a.compare b = .lt) : a.dayNumber < b.dayNumber := by
  obtain hyear | ⟨hyear, hmonth | ⟨hmonth, hday⟩⟩ := compare_eq_lt_iff_parts.mp h
  · exact dayNumber_lt_of_year hyear
  · exact dayNumber_lt_of_month hyear hmonth
  · exact dayNumber_lt_of_day hyear hmonth hday

theorem compare_trichotomy (a b : Date) : a.compare b = .lt ∨ a = b ∨ b.compare a = .lt := by
  rw [compare_eq_lt_iff_parts, compare_eq_lt_iff_parts]
  by_cases hparts : a.year = b.year ∧ a.month = b.month ∧ a.day = b.day
  · obtain ⟨hyear, hmonth, hday⟩ := hparts
    exact .inr (.inl (eq_of_parts hyear hmonth hday))
  · omega

/-- Dates order as their day numbers do. -/
theorem compare_eq_lt_iff : a.compare b = .lt ↔ a.dayNumber < b.dayNumber := by
  constructor
  · exact dayNumber_lt_of_compare
  · intro h
    obtain hlt | rfl | hgt := compare_trichotomy a b
    · exact hlt
    · omega
    · have hback := dayNumber_lt_of_compare hgt
      omega

theorem compare_eq_eq_iff : a.compare b = .eq ↔ a = b := by
  simp only [compare, Ordering.then_eq_eq, Int.compare_eq_eq, Nat.compare_eq_eq]
  constructor
  · intro h
    obtain ⟨hyear, hmonth, hday⟩ := h
    exact eq_of_parts hyear hmonth hday
  · intro h
    subst h
    exact ⟨rfl, rfl, rfl⟩

end Date

namespace ClockTime

variable {a b : ClockTime}

theorem compare_eq_lt_iff :
    a.compare b = .lt ↔ a.secondOfDay < b.secondOfDay ∨
      a.secondOfDay = b.secondOfDay ∧ a.nano < b.nano := by
  obtain ⟨-, hminuteA, hsecondA, -⟩ := a.valid
  obtain ⟨-, hminuteB, hsecondB, -⟩ := b.valid
  simp only [compare, secondOfDay, Ordering.then_eq_lt, Nat.compare_eq_lt, Nat.compare_eq_eq]
  omega

theorem eq_of_secondOfDay (hsecond : a.secondOfDay = b.secondOfDay) (hnano : a.nano = b.nano) :
    a = b := by
  obtain ⟨-, hminuteA, hsecondA, -⟩ := a.valid
  obtain ⟨-, hminuteB, hsecondB, -⟩ := b.valid
  obtain ⟨hourA, minuteA, secondA, nanoA, _⟩ := a
  obtain ⟨hourB, minuteB, secondB, nanoB, _⟩ := b
  simp only [secondOfDay, mk.injEq] at *
  omega

end ClockTime

namespace Moment

variable {a b : Moment}

theorem isBefore_iff : a.isBefore b = true ↔ a.Precedes b := by
  rw [isBefore, beq_iff_eq, compare, Ordering.then_eq_lt, Date.compare_eq_lt_iff,
    Date.compare_eq_eq_iff, ClockTime.compare_eq_lt_iff, Precedes]

theorem Precedes.not_precedes (h : a.Precedes b) : ¬b.Precedes a := by
  unfold Precedes at h ⊢
  obtain hday | ⟨hdate, htime⟩ := h
  · intro hback
    obtain hday' | ⟨hdate, -⟩ := hback
    · omega
    · rw [hdate] at hday
      omega
  · rw [hdate]
    omega

theorem Precedes.ne (h : a.Precedes b) : a ≠ b := by
  intro heq
  subst heq
  exact h.not_precedes h

/-- Of two different moments one precedes the other. -/
theorem precedes_trichotomy (a b : Moment) : a.Precedes b ∨ a = b ∨ b.Precedes a := by
  obtain ⟨dateA, timeA⟩ := a
  obtain ⟨dateB, timeB⟩ := b
  simp only [Precedes, ← Date.compare_eq_lt_iff]
  obtain hlt | rfl | hgt := Date.compare_trichotomy dateA dateB
  · exact .inl (.inl hlt)
  · by_cases htime : timeA.secondOfDay = timeB.secondOfDay ∧ timeA.nano = timeB.nano
    · rw [ClockTime.eq_of_secondOfDay htime.1 htime.2]
      exact .inr (.inl rfl)
    · simp only [true_and]
      omega
  · exact .inr (.inr (.inl hgt))

end Moment

end ShippingRules
