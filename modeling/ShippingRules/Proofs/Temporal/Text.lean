import ShippingRules.Evaluator.Basic
import ShippingRules.Proofs.Json.NumberText
import ShippingRules.Proofs.Temporal.RoundTrip
import ShippingRules.Proofs.Text

/-!
What else the text of an instant is read as. It starts with a numeral, that of its hour or of its
year; it is no operator and no login state; and as a list of cities it is one city. Read back as an
instant it is the instant that is shown, without the part of a second. Nothing reads the text of an
instant that is shown with second 60 or with a year that does not have four digits.
-/
namespace ShippingRules.Temporal

/-- The characters that instants are written with. -/
def alphabet : List Char :=
  ['0', '1', '2', '3', '4', '5', '6', '7', '8', '9', '-', '+', ':', 'T']

section Alphabet

theorem mem_alphabet_of_isDigit {c : Char} (h : c.isDigit = true) : c ∈ alphabet := by
  have hrange : 48 ≤ c.toNat ∧ c.toNat ≤ 57 := by
    simpa [Char.isDigit, UInt32.le_iff_toNat_le] using h
  have hdigits : ∀ n < 10, Char.ofNat (48 + n) ∈ alphabet := by decide
  have hmem := hdigits (c.toNat - 48) (by omega)
  rwa [Nat.add_sub_cancel' hrange.1, Char.ofNat_toNat] at hmem

theorem isBlank_of_mem_alphabet {c : Char} (h : c ∈ alphabet) : Text.isBlank c = false := by
  have hblank : alphabet.all (!Text.isBlank ·) = true := by decide
  simpa using List.all_eq_true.mp hblank c h

theorem isDigit_of_mem_padded {width n : Nat} {c : Char} (h : c ∈ padded width n) :
    c.isDigit = true := by
  rw [padded, List.mem_append] at h
  obtain hzero | hdigit := h
  · rw [List.eq_of_mem_replicate hzero]
    rfl
  · exact Nat.isDigit_of_mem_toDigits (by decide) (by decide) hdigit

theorem mem_alphabet_of_padded {width n : Nat} {c : Char} (h : c ∈ padded width n) :
    c ∈ alphabet := mem_alphabet_of_isDigit (isDigit_of_mem_padded h)

theorem mem_alphabet_of_timeText {t : ClockTime} {c : Char} (h : c ∈ timeText t) :
    c ∈ alphabet := by
  simp only [timeText, List.mem_append, List.mem_cons] at h
  obtain (hhour | rfl | hminute) | rfl | hsecond := h
  · exact mem_alphabet_of_padded hhour
  · decide
  · exact mem_alphabet_of_padded hminute
  · decide
  · exact mem_alphabet_of_padded hsecond

theorem mem_alphabet_of_dateText {d : Date} {c : Char} (h : c ∈ dateText d) : c ∈ alphabet := by
  simp only [dateText, List.mem_append, List.mem_cons] at h
  obtain (hyear | rfl | hmonth) | rfl | hday := h
  · unfold yearText at hyear
    split at hyear
    · exact mem_alphabet_of_padded hyear
    · obtain rfl | hdigits := List.mem_cons.mp hyear
      · split <;> decide
      · exact mem_alphabet_of_padded hdigits
  · decide
  · exact mem_alphabet_of_padded hmonth
  · decide
  · exact mem_alphabet_of_padded hday

theorem mem_alphabet {t : Temporal} {c : Char} (h : c ∈ t.toChars) : c ∈ alphabet := by
  cases t with
  | timeOfDay t => exact mem_alphabet_of_timeText h
  | date d => exact mem_alphabet_of_dateText h
  | moment m =>
    obtain hdate | htime := List.mem_append.mp h
    · exact mem_alphabet_of_dateText hdate
    · obtain rfl | htime := List.mem_cons.mp htime
      · decide
      · exact mem_alphabet_of_timeText htime

theorem length_padded (width n : Nat) : width ≤ (padded width n).length := by
  rw [padded, List.length_append, List.length_replicate]
  omega

/-- The shortest texts are those of times of day. -/
theorem length_toChars (t : Temporal) : 8 ≤ t.toChars.length := by
  have htime : ∀ c : ClockTime, 8 ≤ (timeText c).length := by
    intro c
    have hhour := length_padded 2 c.hour
    have hminute := length_padded 2 c.minute
    have hsecond := length_padded 2 c.shownSecond
    simp only [timeText, List.length_append, List.length_cons]
    omega
  have hdate : ∀ d : Date, 8 ≤ (dateText d).length := by
    intro d
    have hyear : 4 ≤ (yearText d.year).length := by
      unfold yearText
      split
      · exact length_padded 4 _
      · exact Nat.le_succ_of_le (length_padded 4 _)
    have hmonth := length_padded 2 d.month
    have hday := length_padded 2 d.day
    simp only [dateText, List.length_append, List.length_cons]
    omega
  cases t with
  | timeOfDay t => exact htime t
  | date d => exact hdate d
  | moment m =>
    rw [toChars, List.length_append]
    have hlength := hdate m.date
    omega

end Alphabet

section Readings

variable (t : Temporal)

theorem toList_text : t.text.toList = t.toChars := String.toList_ofList

theorem dropWhile_toChars {p : Char → Bool} (h : alphabet.all (!p ·) = true) :
    t.toChars.dropWhile p = t.toChars := by
  refine Text.dropWhile_of_forall fun c hc => ?_
  simpa using List.all_eq_true.mp h c (mem_alphabet hc)

theorem trimChars_toChars : Text.trimChars t.toChars = t.toChars := by
  exact Text.trimChars_eq_self fun c hc => isBlank_of_mem_alphabet (mem_alphabet hc)

theorem trim_text : Text.trim t.text = t.text := by
  rw [Text.trim, toList_text, trimChars_toChars, text]

theorem text_ne_empty : t.text ≠ "" := by
  intro h
  have hlength := length_toChars t
  rw [← toList_text, h] at hlength
  exact absurd hlength (by decide)

/-- Operators are named by words. -/
theorem ofName?_text : Operator.ofName? t.text = none := by
  refine Option.eq_none_iff_forall_ne_some.mpr fun op hop => ?_
  have hname := (Operator.ofName?_eq_some_iff _ _).mp hop
  have hword : op.name.toList.all (alphabet.contains ·) = false := by cases op <;> decide +kernel
  refine Bool.eq_false_iff.mp hword (List.all_eq_true.mpr fun c hc => ?_)
  rw [hname, toList_text] at hc
  exact List.contains_iff_mem.mpr (mem_alphabet hc)

/-- Texts of instants are too long for an answer. -/
theorem sameAscii_toChars {answer : List Char} (h : answer.length < 8) :
    Evaluator.sameAscii t.toChars answer = false := by
  refine Bool.eq_false_iff.mpr fun hsame => ?_
  have hlength := congrArg List.length (eq_of_beq hsame)
  rw [Text.lowerAscii, Text.lowerAscii, List.length_map, List.length_map] at hlength
  have hlong := length_toChars t
  omega

section LowerCase

theorem lowerChars_toChars : Text.lowerChars t.toChars = t.toChars.flatMap Text.lowerChar := by
  have hsigma : alphabet.all (·.toNat ≠ 0x3a3) = true := by decide
  refine Text.lowerFrom_eq_flatMap fun c hc => ?_
  exact of_decide_eq_true (List.all_eq_true.mp hsigma c (mem_alphabet hc))

theorem lowerChars_ne_nil : Text.lowerChars t.toChars ≠ [] := by
  have hlength := length_toChars t
  obtain ⟨c, hc⟩ := List.exists_mem_of_length_pos (show 0 < t.toChars.length by omega)
  rw [lowerChars_toChars]
  exact fun hnil => Text.lowerChar_ne_nil c (List.flatMap_eq_nil_iff.mp hnil c hc)

theorem mem_lowerChars {d : Char} (h : d ∈ Text.lowerChars t.toChars) :
    Text.isBlank d = false ∧ d ≠ ',' := by
  have hforms : alphabet.all (fun c => (Text.lowerChar c).all fun d =>
      !Text.isBlank d && d != ',') = true := by decide +kernel
  rw [lowerChars_toChars] at h
  obtain ⟨c, hc, hform⟩ := List.mem_flatMap.mp h
  have hd := List.all_eq_true.mp (List.all_eq_true.mp hforms c (mem_alphabet hc)) d hform
  simpa using hd

end LowerCase

/-- As a list of cities the text is one city. -/
theorem configuredCities_text : Evaluator.configuredCities t.text = [Text.lower t.text] := by
  have hpieces : Text.pieces ',' (Text.lowerChars t.toChars) = [Text.lowerChars t.toChars] :=
    Text.pieces_of_not_mem fun hcomma => (mem_lowerChars t hcomma).2 rfl
  have htrim : Text.trimChars (Text.lowerChars t.toChars) = Text.lowerChars t.toChars :=
    Text.trimChars_eq_self fun d hd => (mem_lowerChars t hd).1
  have hsome : (Text.lowerChars t.toChars).isEmpty = false :=
    List.isEmpty_eq_false_iff.mpr (lowerChars_ne_nil t)
  simp only [Evaluator.configuredCities, toList_text, hpieces, List.map_singleton, htrim,
    List.filter_cons, hsome, Bool.not_false, if_true, List.filter_nil, Text.lower]

end Readings

section Number

/-- The number that the text of an instant starts with. -/
def leadingPart : Temporal → Int
  | .timeOfDay t => t.hour
  | .date d => d.year
  | .moment m => m.date.year

theorem ofDigitChars_padded (width n : Nat) : Nat.ofDigitChars 10 (padded width n) 0 = n := by
  rw [padded, Nat.ofDigitChars_append, Nat.ofDigitChars_replicate_zero, Nat.mul_zero,
    Nat.ofDigitChars_ten_toDigits]

theorem padded_ne_nil (width n : Nat) : padded width n ≠ [] :=
  List.append_ne_nil_of_right_ne_nil _ Nat.toDigits_ne_nil

theorem readSign_padded (width n : Nat) (rest : List Char) :
    Numeral.readSign (padded width n ++ rest) = (false, padded width n ++ rest) := by
  obtain ⟨c, tail, hcons⟩ := List.exists_cons_of_ne_nil (padded_ne_nil width n)
  have hdigit : c.isDigit = true := by
    have hmem : c ∈ padded width n := hcons ▸ List.mem_cons_self
    exact isDigit_of_mem_padded hmem
  rw [hcons, List.cons_append]
  unfold Numeral.readSign
  split
  · rename_i heq
    cases heq
    exact absurd hdigit (by decide)
  · rename_i heq
    cases heq
    exact absurd hdigit (by decide)
  · rfl

/-- A run of digits that a colon or a hyphen ends is read as a whole number. -/
theorem readFront?_padded {s tail : List Char} {c : Char} {negative : Bool} {width n : Nat}
    (hc : c = ':' ∨ c = '-')
    (hsign : Numeral.readSign s = (negative, padded width n ++ c :: tail)) :
    Numeral.readFront? s = some (⟨negative, padded width n, [], 0⟩, c :: tail) := by
  have hdigits : ∀ d ∈ padded width n, d.isDigit = true := fun d hd => isDigit_of_mem_padded hd
  have hends : c.isDigit = false ∧ c ≠ '.' ∧ c ≠ 'e' ∧ c ≠ 'E' := by
    obtain rfl | rfl := hc
    · decide
    · decide
  have hrun := Json.digitRun_append hdigits fun d hd => (Json.endsNumber_cons tail hends d hd).1
  have hmantissa : Numeral.readMantissa? (padded width n ++ c :: tail) =
      some (padded width n, [], c :: tail) := by
    simp only [Numeral.readMantissa?, hrun]
    split
    · rename_i heq
      cases heq
      exact absurd rfl hends.2.1
    · rw [if_neg (padded_ne_nil width n)]
  have hexponent : Numeral.readExponent (c :: tail) = (0, c :: tail) :=
    if_neg (not_or.mpr hends.2.2)
  simp only [Numeral.readFront?, hsign, hmantissa, hexponent, Option.bind_eq_bind,
    Option.bind_some]
  rfl

theorem readFront?_timeText (t : ClockTime) :
    ∃ rest, Numeral.readFront? (timeText t) = some (⟨false, padded 2 t.hour, [], 0⟩, rest) := by
  simp only [timeText, List.append_assoc, List.cons_append]
  exact ⟨_, readFront?_padded (.inl rfl) (readSign_padded 2 t.hour _)⟩

theorem readSign_yearText (year : Int) (rest : List Char) :
    Numeral.readSign (yearText year ++ rest) =
      (decide (year < 0), padded 4 year.natAbs ++ rest) := by
  unfold yearText
  split
  · have habs : year.toNat = year.natAbs := by omega
    rw [habs, readSign_padded, decide_eq_false (by omega)]
  · by_cases hneg : year < 0
    · rw [if_pos hneg, decide_eq_true hneg]
      rfl
    · rw [if_neg hneg, decide_eq_false hneg]
      rfl

theorem readFront?_dateText (d : Date) (time : List Char) :
    ∃ rest, Numeral.readFront? (dateText d ++ time) =
      some (⟨decide (d.year < 0), padded 4 d.year.natAbs, [], 0⟩, rest) := by
  simp only [dateText, List.append_assoc, List.cons_append]
  exact ⟨_, readFront?_padded (.inr rfl) (readSign_yearText d.year _)⟩

theorem toDouble_whole (negative : Bool) (width n : Nat) :
    Numeral.toDouble ⟨negative, padded width n, [], 0⟩ = Double.nearest negative n 1 := by
  have hdecimal : Numeral.decimal ⟨negative, padded width n, [], 0⟩ = ⟨n, 0⟩ := by
    rw [Numeral.decimal, List.append_nil, ofDigitChars_padded]
    rfl
  have hquotient : Decimal.quotient ⟨n, 0⟩ = (n, 1) := by
    simp [Decimal.quotient]
  rw [Numeral.toDouble, hdecimal, Decimal.toDouble, Decimal.nearestBits_eq_quotient, hquotient,
    Double.nearest]

/-- The text of an instant starts with its hour, or else with its year. -/
theorem leading?_text (t : Temporal) :
    Numeral.leading? t.text = some (Double.ofInt t.leadingPart) := by
  have hblank : t.toChars.dropWhile Numeral.isBlank = t.toChars :=
    dropWhile_toChars t (by decide)
  rw [Numeral.leading?, toList_text, hblank]
  cases t with
  | timeOfDay t =>
    obtain ⟨rest, hfront⟩ := readFront?_timeText t
    rw [toChars, hfront]
    exact congrArg some (toDouble_whole false 2 t.hour)
  | date d =>
    obtain ⟨rest, hfront⟩ := readFront?_dateText d []
    rw [List.append_nil] at hfront
    rw [toChars, hfront]
    exact congrArg some (toDouble_whole _ 4 d.year.natAbs)
  | moment m =>
    obtain ⟨rest, hfront⟩ := readFront?_dateText m.date ('T' :: timeText m.time)
    rw [toChars, hfront]
    exact congrArg some (toDouble_whole _ 4 m.date.year.natAbs)

end Number

section Instant

/-- The time that is shown, without the part of a second; there is no second 60 to show. -/
def shownTime (t : ClockTime) : ClockTime :=
  ⟨t.hour, t.minute, min t.shownSecond 59, 0, t.valid.1, t.valid.2.1,
    Nat.lt_of_le_of_lt (Nat.min_le_right _ _) (by decide), by decide⟩

/-- The instant that a text shows. -/
def shown : Temporal → Temporal
  | .timeOfDay t => .timeOfDay (shownTime t)
  | .date d => .date d
  | .moment m => .moment ⟨m.date, shownTime m.time⟩

/-- An instant that is shown with a second of its minute and, if it has a date, with a year of four
digits. -/
def Legible : Temporal → Prop
  | .timeOfDay t => t.shownSecond < 60
  | .date d => FourDigitYear d
  | .moment m => FourDigitYear m.date ∧ m.time.shownSecond < 60

theorem timeText_shownTime {t : ClockTime} (h : t.shownSecond < 60) :
    timeText (shownTime t) = timeText t := by
  have hshown : (shownTime t).shownSecond = t.shownSecond := Nat.min_eq_left (Nat.le_of_lt_succ h)
  rw [timeText, timeText, hshown]
  rfl

theorem text_shown {t : Temporal} (h : t.Legible) : t.shown.text = t.text := by
  cases t with
  | timeOfDay t => rw [text, text, shown, toChars, toChars, timeText_shownTime h]
  | date d => rfl
  | moment m => rw [text, text, shown, toChars, toChars, timeText_shownTime h.2]

theorem plain_shown {t : Temporal} (h : t.Legible) : t.shown.Plain := by
  cases t with
  | timeOfDay t => rfl
  | date d => exact h
  | moment m => exact ⟨h.1, rfl⟩

theorem shownSecond_le (t : ClockTime) : t.shownSecond ≤ 60 := by
  have hsecond := t.valid.2.2.1
  unfold ClockTime.shownSecond
  split <;> omega

theorem readTime_of_sixty {t : ClockTime} (h : ¬t.shownSecond < 60) :
    readTime (timeText t) = none := by
  obtain ⟨hhour, hminute, -⟩ := t.valid
  have hshown : t.shownSecond = 60 := Nat.le_antisymm (shownSecond_le t) (Nat.le_of_not_lt h)
  have hhours := twoDigits_padded (show t.hour < 100 by omega)
    (':' :: (padded 2 t.minute ++ ':' :: padded 2 60))
  have hminutes := twoDigits_padded (show t.minute < 100 by omega) (':' :: padded 2 60)
  have hseconds := twoDigits_padded (show 60 < 100 by decide) []
  rw [List.append_nil] at hseconds
  have htime : ClockTime.of? t.hour t.minute 60 0 = none :=
    dif_neg fun hvalid => absurd hvalid.1.2.2.1 (by decide)
  rw [timeText, hshown]
  simp only [List.append_assoc, List.cons_append, readTime, hourDigits, hhours, hminutes,
    Option.bind_eq_bind, Option.bind_some, after, if_true, seconds, hseconds, Option.getD_some,
    htime, Option.bind_none]

theorem readBody_of_not_digit {c : Char} {rest : List Char} (h : digit? c = none) :
    readBody (c :: rest) = none := by
  have hdigits : twoDigits (c :: rest) = none := by
    cases rest with
    | nil => rfl
    | cons d rest => rw [twoDigits, h]; rfl
  simp only [readBody, readDated, readDate, fourDigits, readTime, hourDigits, hdigits, h,
    Option.bind_eq_bind, Option.bind_none, Option.map_none]

theorem readBody_of_farYear {d : Date} (h : ¬FourDigitYear d) (rest : List Char) :
    readBody (dateText d ++ rest) = none := by
  have hyear : yearText d.year = (if d.year < 0 then '-' else '+') :: padded 4 d.year.natAbs :=
    if_neg h
  rw [dateText, hyear]
  apply readBody_of_not_digit
  split <;> decide

theorem parse?_text_eq_none {t : Temporal} (h : ¬t.Legible) : parse? t.text = none := by
  have hgap : t.toChars.dropWhile isGap = t.toChars := dropWhile_toChars t (by decide)
  rw [parse?, toList_text, parseChars?, hgap]
  cases t with
  | timeOfDay t =>
    have hdated := readDated_timeText t []
    rw [List.append_nil] at hdated
    rw [readBody, toChars, hdated, readTime_of_sixty h]
    rfl
  | date d =>
    have hyear := readBody_of_farYear h []
    rw [List.append_nil] at hyear
    rw [toChars, hyear]
    rfl
  | moment m =>
    by_cases hyear : FourDigitYear m.date
    · have hdate := readDate_dateText hyear ('T' :: timeText m.time)
      have htime := readTime_of_sixty fun hsecond => h ⟨hyear, hsecond⟩
      simp only [readBody, toChars, readDated, hdate, Option.bind_eq_bind, Option.bind_some,
        afterSeparator, true_or, if_true, htime]
      rfl
    · rw [toChars, readBody_of_farYear hyear]
      rfl

/-- What the text of an instant is read back as. -/
theorem parse?_text_of_legible {t : Temporal} (h : t.Legible) : parse? t.text = some t.shown := by
  rw [← text_shown h, parse?_text (plain_shown h)]

/-- Shown without its part of a second, a time is earlier; a leap second is shown as the next
second, and it is earlier itself. -/
theorem shownTime_compare {t : ClockTime} (hshown : t.shownSecond < 60) (h : t.nano ≠ 0) :
    (shownTime t).compare t = .lt ∨ t.compare (shownTime t) = .lt := by
  by_cases hleap : 1000000000 ≤ t.nano
  · have hsecond : Ord.compare t.second (min t.shownSecond 59) = .lt := by
      rw [Nat.compare_eq_lt, Nat.min_eq_left (Nat.le_of_lt_succ hshown), ClockTime.shownSecond,
        if_pos hleap]
      exact Nat.lt_succ_self _
    right
    simp only [ClockTime.compare, shownTime, Std.ReflOrd.compare_self, Ordering.eq_then, hsecond]
    rfl
  · have hsecond : min t.shownSecond 59 = t.second := by
      rw [Nat.min_eq_left (Nat.le_of_lt_succ hshown), ClockTime.shownSecond, if_neg hleap]
    have hnano : Ord.compare 0 t.nano = .lt := Nat.compare_eq_lt.mpr (Nat.pos_of_ne_zero h)
    left
    simp only [ClockTime.compare, shownTime, hsecond, Std.ReflOrd.compare_self, Ordering.eq_then,
      hnano]

theorem isBefore_of_compare {a b : ClockTime} (h : a.compare b = .lt) (d : Date) :
    Moment.isBefore ⟨d, a⟩ ⟨d, b⟩ = true := by
  simp only [Moment.isBefore, Moment.compare, Date.compare, Std.ReflOrd.compare_self,
    Ordering.eq_then, h]
  rfl

/-- An instant that is not plain lies at another moment than it is shown at: always before it or
always after it. -/
theorem isBefore_shown_or {t : Temporal} (hlegible : t.Legible) (h : ¬t.Plain) :
    (∀ now, (t.shown.resolve now).isBefore (t.resolve now) = true) ∨
      ∀ now, (t.resolve now).isBefore (t.shown.resolve now) = true := by
  cases t with
  | timeOfDay t =>
    exact (shownTime_compare hlegible h).imp (fun hlt now => isBefore_of_compare hlt now.date)
      fun hlt now => isBefore_of_compare hlt now.date
  | date d => exact absurd hlegible h
  | moment m =>
    have hnano : m.time.nano ≠ 0 := fun hnano => h ⟨hlegible.1, hnano⟩
    exact (shownTime_compare hlegible.2 hnano).imp (fun hlt _ => isBefore_of_compare hlt m.date)
      fun hlt _ => isBefore_of_compare hlt m.date

end Instant

end ShippingRules.Temporal
