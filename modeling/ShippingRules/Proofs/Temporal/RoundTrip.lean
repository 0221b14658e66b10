import ShippingRules.Temporal.Literal

/-!
Instants and their literals. An instant is plain if its text tells all of it: it has no part of a
second, and where it has a date, the year has four digits. A plain instant is read back from its
text, and every instant that is read from a text is plain.
-/
namespace ShippingRules.Temporal

section Digits

theorem digit?_digitChar {n : Nat} (h : n < 10) : digit? (Nat.digitChar n) = some n := by
  have hdigits : ∀ m, m < 10 → digit? (Nat.digitChar m) = some m := by decide
  exact hdigits n h

theorem lt_of_digit? {c : Char} {n : Nat} (h : digit? c = some n) : n < 10 := by
  unfold digit? at h
  split at h
  · rename_i hdigit
    cases h
    have hrange : 48 ≤ c.toNat ∧ c.toNat ≤ 57 := by
      simpa [Char.isDigit, UInt32.le_iff_toNat_le] using hdigit
    have hzero : '0'.toNat = 48 := rfl
    omega
  · cases h

theorem padded_succ (width n : Nat) (hwidth : 0 < width) :
    padded (width + 1) n = padded width (n / 10) ++ [Nat.digitChar (n % 10)] := by
  by_cases hsmall : n < 10
  · have htens : n / 10 = 0 := by omega
    have hones : n % 10 = n := by omega
    obtain ⟨zeros, rfl⟩ : ∃ zeros, width = zeros + 1 := ⟨width - 1, by omega⟩
    have hzero : padded (zeros + 1) 0 = List.replicate (zeros + 1) '0' :=
      List.replicate_succ'.symm
    rw [htens, hones, hzero, padded, Nat.toDigits_of_lt_base hsmall]
    rfl
  · rw [padded, Nat.toDigits_of_base_le (by decide) (by omega)]
    simp only [padded, List.length_append, List.length_singleton, Nat.add_sub_add_right,
      List.append_assoc]

theorem padded_two {n : Nat} (h : n < 100) :
    padded 2 n = [Nat.digitChar (n / 10), Nat.digitChar (n % 10)] := by
  have htens : n / 10 < 10 := Nat.div_lt_of_lt_mul h
  rw [padded_succ 1 n Nat.one_pos, padded, Nat.toDigits_of_lt_base htens]
  rfl

/-- Four digits are two and two. -/
theorem padded_four (n : Nat) : padded 4 n = padded 2 (n / 100) ++ padded 2 (n % 100) := by
  have htens : n % 100 / 10 = n / 10 % 10 := by omega
  have hones : n % 100 % 10 = n % 10 := by omega
  rw [padded_succ 3 n (by decide), padded_succ 2 _ (by decide), Nat.div_div_eq_div_mul,
    padded_two (show n % 100 < 100 by omega), htens, hones, List.append_assoc]
  rfl

theorem twoDigits_padded {n : Nat} (h : n < 100) (rest : List Char) :
    twoDigits (padded 2 n ++ rest) = some (n, rest) := by
  have htens := digit?_digitChar (show n / 10 < 10 by omega)
  have hones := digit?_digitChar (show n % 10 < 10 by omega)
  have hsum : 10 * (n / 10) + n % 10 = n := by omega
  rw [padded_two h]
  simp only [List.cons_append, List.nil_append, twoDigits, htens, hones, Option.bind_eq_bind,
    Option.bind_some, hsum]
  rfl

theorem fourDigits_padded {n : Nat} (h : n < 10000) (rest : List Char) :
    fourDigits (padded 4 n ++ rest) = some (n, rest) := by
  have hfirst := twoDigits_padded (show n / 100 < 100 by omega) (padded 2 (n % 100) ++ rest)
  have hsecond := twoDigits_padded (show n % 100 < 100 by omega) rest
  have hsum : 100 * (n / 100) + n % 100 = n := by omega
  rw [padded_four, List.append_assoc]
  simp only [fourDigits, hfirst, hsecond, Option.bind_eq_bind, Option.bind_some, hsum]
  rfl

theorem lt_of_twoDigits {s rest : List Char} {n : Nat} (h : twoDigits s = some (n, rest)) :
    n < 100 := by
  unfold twoDigits at h
  split at h
  · simp only [Option.bind_eq_bind, Option.bind_eq_some_iff] at h
    obtain ⟨tens, htens, ones, hones, hpair⟩ := h
    cases hpair
    have hlow := lt_of_digit? htens
    have hhigh := lt_of_digit? hones
    omega
  · cases h

theorem lt_of_fourDigits {s rest : List Char} {n : Nat} (h : fourDigits s = some (n, rest)) :
    n < 10000 := by
  simp only [fourDigits, Option.bind_eq_bind, Option.bind_eq_some_iff] at h
  obtain ⟨⟨century, middle⟩, hcentury, ⟨year, back⟩, hyear, hpair⟩ := h
  cases hpair
  have hhigh := lt_of_twoDigits hcentury
  have hlow := lt_of_twoDigits hyear
  omega

end Digits

/-- A year that is written with four digits. -/
def FourDigitYear (d : Date) : Prop := 0 ≤ d.year ∧ d.year ≤ 9999

/-- An instant without a part of a second and, if it has a date, with a year of four digits. -/
def Plain : Temporal → Prop
  | .timeOfDay t => t.nano = 0
  | .date d => FourDigitYear d
  | .moment m => FourDigitYear m.date ∧ m.time.nano = 0

section Writing

theorem readTime_timeText {t : ClockTime} (h : t.nano = 0) (rest : List Char) :
    readTime (timeText t ++ rest) = some (t, rest) := by
  obtain ⟨hhour, hminute, hsecond, -⟩ := t.valid
  have hshown : t.shownSecond = t.second := if_neg (by omega)
  have hhours := twoDigits_padded (show t.hour < 100 by omega)
    (':' :: (padded 2 t.minute ++ ':' :: (padded 2 t.second ++ rest)))
  have hminutes := twoDigits_padded (show t.minute < 100 by omega)
    (':' :: (padded 2 t.second ++ rest))
  have hseconds := twoDigits_padded (show t.second < 100 by omega) rest
  have htime : ClockTime.of? t.hour t.minute t.second 0 = some t := by
    rw [← h]
    exact dif_pos ⟨t.valid, fun hleap => absurd hleap (by omega)⟩
  rw [timeText, hshown]
  simp only [List.append_assoc, List.cons_append, readTime, hourDigits, hhours, hminutes,
    Option.bind_eq_bind, Option.bind_some, after, if_true, seconds, hseconds, Option.getD_some,
    htime]
  rfl

theorem readDate_dateText {d : Date} (h : FourDigitYear d) (rest : List Char) :
    readDate (dateText d ++ rest) = some (d, rest) := by
  obtain ⟨hlow, hhigh⟩ := h
  obtain ⟨-, -, -, hmonth, -, hday⟩ := d.existing
  have hdays : daysInMonth d.year d.month ≤ 31 := by
    unfold daysInMonth
    split
    · split <;> decide
    all_goals decide
  have hyears := fourDigits_padded (show d.year.toNat < 10000 by omega)
    ('-' :: (padded 2 d.month ++ '-' :: (padded 2 d.day ++ rest)))
  have hmonths := twoDigits_padded (show d.month < 100 by omega)
    ('-' :: (padded 2 d.day ++ rest))
  have hdayDigits := twoDigits_padded (show d.day < 100 by omega) rest
  have hyear : (d.year.toNat : Int) = d.year := by omega
  have hdate : Date.of? d.year d.month d.day = some d := dif_pos d.existing
  rw [dateText, yearText, if_pos ⟨hlow, hhigh⟩]
  simp only [List.append_assoc, List.cons_append, readDate, hyears, hmonths, hdayDigits,
    Option.bind_eq_bind, Option.bind_some, after, if_true, hyear, hdate]
  rfl

/-- A time is no date: its third character is a colon. -/
theorem readDated_timeText (t : ClockTime) (rest : List Char) :
    readDated (timeText t ++ rest) = none := by
  have hhours := twoDigits_padded (show t.hour < 100 by have := t.valid.1; omega)
    (':' :: (padded 2 t.minute ++ ':' :: (padded 2 t.shownSecond ++ rest)))
  have hcolon : ∀ s, twoDigits (':' :: s) = none := by
    intro s
    cases s with
    | nil => rfl
    | cons c s => rfl
  simp only [timeText, List.append_assoc, List.cons_append, readDated, readDate, fourDigits, hhours,
    hcolon, Option.bind_eq_bind, Option.bind_some, Option.bind_none]

theorem readBody_toChars {t : Temporal} (h : t.Plain) : readBody t.toChars = some (t, []) := by
  cases t with
  | timeOfDay t =>
    have hdated := readDated_timeText t []
    have htime := readTime_timeText h []
    rw [List.append_nil] at hdated htime
    rw [readBody, toChars, hdated, htime]
    rfl
  | date d =>
    have hdate := readDate_dateText h []
    rw [List.append_nil] at hdate
    simp only [readBody, toChars, readDated, hdate, Option.bind_eq_bind, Option.bind_some]
    rfl
  | moment m =>
    have hdate := readDate_dateText h.1 ('T' :: timeText m.time)
    have htime := readTime_timeText h.2 []
    rw [List.append_nil] at htime
    simp only [readBody, toChars, readDated, hdate, Option.bind_eq_bind, Option.bind_some,
      afterSeparator, true_or, if_true, htime]
    rfl

theorem dropWhile_isGap_padded {n : Nat} (h : n < 100) (rest : List Char) :
    (padded 2 n ++ rest).dropWhile isGap = padded 2 n ++ rest := by
  have hdigit : ∀ m, m < 10 → isGap (Nat.digitChar m) = false := by decide
  rw [padded_two h, List.cons_append, List.dropWhile_cons, hdigit _ (Nat.div_lt_of_lt_mul h)]
  rfl

/-- The text of a plain instant starts with a digit. -/
theorem dropWhile_isGap_toChars {t : Temporal} (h : t.Plain) :
    t.toChars.dropWhile isGap = t.toChars := by
  have htime : ∀ (c : ClockTime) rest,
      (timeText c ++ rest).dropWhile isGap = timeText c ++ rest := by
    intro c rest
    simp only [timeText, List.append_assoc]
    exact dropWhile_isGap_padded (by have := c.valid.1; omega) _
  have hdate : ∀ (d : Date) rest, FourDigitYear d →
      (dateText d ++ rest).dropWhile isGap = dateText d ++ rest := by
    intro d rest hyear
    obtain ⟨hlow, hhigh⟩ := hyear
    rw [dateText, yearText, if_pos ⟨hlow, hhigh⟩, padded_four]
    simp only [List.append_assoc]
    exact dropWhile_isGap_padded (by omega) _
  cases t with
  | timeOfDay c =>
    have hempty := htime c []
    rwa [List.append_nil] at hempty
  | date d =>
    have hempty := hdate d [] h
    rwa [List.append_nil] at hempty
  | moment m => exact hdate m.date _ h.1

/-- A plain instant is read back from its text. -/
theorem parse?_text {t : Temporal} (h : t.Plain) : parse? t.text = some t := by
  rw [parse?, text, String.toList_ofList, parseChars?, dropWhile_isGap_toChars h,
    readBody_toChars h]
  rfl

end Writing

section Reading

theorem nano_of_readTime {s rest : List Char} {t : ClockTime} (h : readTime s = some (t, rest)) :
    t.nano = 0 := by
  simp only [readTime, Option.bind_eq_bind, Option.bind_eq_some_iff] at h
  obtain ⟨hour, -, afterHour, -, minute, -, time, htime, hpair⟩ := h
  cases hpair
  unfold ClockTime.of? at htime
  split at htime
  · cases htime
    rfl
  · cases htime

theorem fourDigitYear_of_readDate {s rest : List Char} {d : Date}
    (h : readDate s = some (d, rest)) : FourDigitYear d := by
  simp only [readDate, Option.bind_eq_bind, Option.bind_eq_some_iff] at h
  obtain ⟨⟨year, back⟩, hyear, front, -, month, -, middle, -, dayOfMonth, -, day, hday, hpair⟩ := h
  cases hpair
  have hlt := lt_of_fourDigits hyear
  unfold Date.of? at hday
  split at hday
  · cases hday
    unfold FourDigitYear
    dsimp only
    omega
  · cases hday

theorem plain_of_readBody {s rest : List Char} {t : Temporal} (h : readBody s = some (t, rest)) :
    t.Plain := by
  unfold readBody at h
  split at h
  · rename_i hdated
    cases h
    simp only [readDated, Option.bind_eq_bind, Option.bind_eq_some_iff] at hdated
    obtain ⟨⟨d, back⟩, hdate, hpair⟩ := hdated
    have hyear := fourDigitYear_of_readDate hdate
    split at hpair
    · rename_i htime
      cases hpair
      obtain ⟨front, -, hread⟩ := Option.bind_eq_some_iff.mp htime
      exact ⟨hyear, nano_of_readTime hread⟩
    · cases hpair
      exact hyear
  · obtain ⟨⟨time, back⟩, htime, hpair⟩ := Option.map_eq_some_iff.mp h
    cases hpair
    exact nano_of_readTime htime

/-- Only plain instants are read. -/
theorem plain_of_parse? {s : String} {t : Temporal} (h : parse? s = some t) : t.Plain := by
  simp only [parse?, parseChars?, Option.bind_eq_bind, Option.bind_eq_some_iff] at h
  obtain ⟨⟨read, rest⟩, hbody, hread⟩ := h
  split at hread
  · cases hread
    exact plain_of_readBody hbody
  · cases hread

end Reading

/-- The plain instants are those that are read back from their text, and no others are read at all:
the text of an instant that was read gives the instant back. -/
theorem parse?_text_iff_plain (t : Temporal) :
    (parse? t.text = some t ↔ t.Plain) ∧
      ∀ s, parse? s = some t → t.Plain ∧ parse? t.text = some t := by
  refine ⟨⟨plain_of_parse?, parse?_text⟩, fun s hs => ?_⟩
  have hplain := plain_of_parse? hs
  exact ⟨hplain, parse?_text hplain⟩

end ShippingRules.Temporal
