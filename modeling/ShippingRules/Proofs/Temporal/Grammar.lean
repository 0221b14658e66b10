import ShippingRules.Proofs.Temporal.Spelling

/-!
The grammar of instants. Each reader takes a spelling from the front of a text and gives what the
spelling names, and it finds every spelling that the text goes on from in a way that does not extend
it. So a text is read as an instant just when one of its readings names that instant.
-/
namespace ShippingRules

theorem ClockTime.of?_eq_some_iff {hour minute second nano : Nat} {t : ClockTime} :
    of? hour minute second nano = some t ↔
      t.hour = hour ∧ t.minute = minute ∧ t.second = second ∧ t.nano = nano ∧
        (1000000000 ≤ nano → second = 59) := by
  unfold of?
  constructor
  · intro h
    split at h
    · rename_i hvalid
      cases h
      exact ⟨rfl, rfl, rfl, rfl, hvalid.2⟩
    · cases h
  · rintro ⟨rfl, rfl, rfl, rfl, hleap⟩
    exact dif_pos ⟨t.valid, hleap⟩

theorem Date.of?_eq_some_iff {year : Int} {month day : Nat} {d : Date} :
    of? year month day = some d ↔ d.year = year ∧ d.month = month ∧ d.day = day := by
  unfold of?
  constructor
  · intro h
    split at h
    · cases h
      exact ⟨rfl, rfl, rfl⟩
    · cases h
  · rintro ⟨rfl, rfl, rfl⟩
    exact dif_pos d.existing

namespace Temporal

theorem digit?_eq_some_iff {c : Char} {n : Nat} :
    digit? c = some n ↔ ∃ h : c.isDigit = true, (DigitRun.single c h).value = n := by
  unfold digit?
  by_cases hc : c.isDigit = true
  · rw [if_pos hc, Option.some.injEq, exists_prop_of_true hc, DigitRun.value_single]
  · rw [if_neg hc]
    exact iff_of_false (by simp) fun hdigit => hc hdigit.1

theorem twoDigits_eq_some_iff {s rest : List Char} {n : Nat} :
    twoDigits s = some (n, rest) ↔ ∃ run : DigitRun 2 2, run.chars ++ rest = s ∧ run.value = n := by
  constructor
  · intro h
    unfold twoDigits at h
    split at h
    · simp only [Option.bind_eq_bind, Option.bind_eq_some_iff, digit?_eq_some_iff] at h
      obtain ⟨tens, ⟨ha, rfl⟩, ones, ⟨hb, rfl⟩, hpair⟩ := h
      cases hpair
      exact ⟨(DigitRun.single _ ha).append (.single _ hb), rfl, DigitRun.value_append _ _⟩
    · cases h
  · rintro ⟨run, rfl, rfl⟩
    obtain ⟨tens, ones, rfl⟩ := DigitRun.exists_append (m := 1) (n := 1) run
    obtain ⟨a, ha, rfl⟩ := tens.exists_single
    obtain ⟨b, hb, rfl⟩ := ones.exists_single
    have htens := digit?_eq_some_iff.mpr ⟨ha, rfl⟩
    have hones := digit?_eq_some_iff.mpr ⟨hb, rfl⟩
    rw [DigitRun.value_append]
    simp only [DigitRun.append, DigitRun.single, List.cons_append, List.nil_append, twoDigits,
      htens, hones]
    rfl

theorem twoDigits_append (run : DigitRun 2 2) (rest : List Char) :
    twoDigits (run.chars ++ rest) = some (run.value, rest) :=
  twoDigits_eq_some_iff.mpr ⟨run, rfl, rfl⟩

theorem fourDigits_eq_some_iff {s rest : List Char} {n : Nat} :
    fourDigits s = some (n, rest) ↔
      ∃ run : DigitRun 4 4, run.chars ++ rest = s ∧ run.value = n := by
  constructor
  · intro h
    simp only [fourDigits, Option.bind_eq_bind, Option.bind_eq_some_iff] at h
    obtain ⟨⟨century, middle⟩, hcentury, ⟨year, behind⟩, hyear, hpair⟩ := h
    cases hpair
    obtain ⟨a, rfl, rfl⟩ := twoDigits_eq_some_iff.mp hcentury
    obtain ⟨b, rfl, rfl⟩ := twoDigits_eq_some_iff.mp hyear
    exact ⟨a.append b, List.append_assoc _ _ _, DigitRun.value_append a b⟩
  · rintro ⟨run, rfl, rfl⟩
    obtain ⟨a, b, rfl⟩ := DigitRun.exists_append (m := 2) (n := 2) run
    have hcentury := twoDigits_append a (b.chars ++ rest)
    have hyear := twoDigits_append b rest
    rw [DigitRun.value_append]
    simp only [DigitRun.append, List.append_assoc, fourDigits, hcentury, hyear, Option.bind_eq_bind,
      Option.bind_some]
    rfl

theorem fourDigits_append (run : DigitRun 4 4) (rest : List Char) :
    fourDigits (run.chars ++ rest) = some (run.value, rest) :=
  fourDigits_eq_some_iff.mpr ⟨run, rfl, rfl⟩

theorem after_cons (c : Char) (rest : List Char) : after c (c :: rest) = some rest := if_pos rfl

theorem after_eq_some_iff {c : Char} {s rest : List Char} :
    after c s = some rest ↔ s = c :: rest := by
  cases s with
  | nil => simp [after]
  | cons head tail =>
    rw [after, List.cons.injEq]
    by_cases hhead : head = c
    · rw [if_pos hhead, Option.some.injEq, and_iff_right hhead]
    · rw [if_neg hhead]
      exact iff_of_false (by simp) fun h => hhead h.1

theorem exists_of_hourDigits {s rest : List Char} {n : Nat} (h : hourDigits s = some (n, rest)) :
    ∃ run : DigitRun 1 2, run.chars ++ rest = s ∧ run.value = n := by
  unfold hourDigits at h
  split at h
  · rename_i htwo
    cases h
    obtain ⟨run, hchars, hvalue⟩ := twoDigits_eq_some_iff.mp htwo
    exact ⟨run.relax (by omega) (by omega), hchars, hvalue⟩
  · split at h
    · obtain ⟨n, hdigit, hpair⟩ := Option.map_eq_some_iff.mp h
      cases hpair
      obtain ⟨hc, hvalue⟩ := digit?_eq_some_iff.mp hdigit
      exact ⟨(DigitRun.single _ hc).relax (by omega) (by omega), rfl, hvalue⟩
    · cases h

theorem twoDigits_of_not_isDigit {a b : Char} (hb : b.isDigit = false) (rest : List Char) :
    twoDigits (a :: b :: rest) = none := by
  have hone : digit? b = none := if_neg (Bool.eq_false_iff.mp hb)
  simp only [twoDigits, hone, Option.bind_eq_bind, Option.bind_none, Option.bind_fun_none]

/-- All digits of the hour are read where something else follows them. -/
theorem hourDigits_append (run : DigitRun 1 2) {c : Char} (hc : c.isDigit = false)
    (rest : List Char) : hourDigits (run.chars ++ c :: rest) = some (run.value, c :: rest) := by
  have hleast := run.least_le
  have hmost := run.le_most
  by_cases hlength : run.chars.length = 2
  · have htwo : twoDigits (run.chars ++ c :: rest) = some (run.value, c :: rest) :=
      twoDigits_append ⟨run.chars, run.isDigit, by omega, hmost⟩ (c :: rest)
    rw [hourDigits.eq_def, htwo]
  · obtain ⟨d, hchars⟩ := List.length_eq_one_iff.mp (show run.chars.length = 1 by omega)
    have hd : d.isDigit = true := run.isDigit d (by simp [hchars])
    have hone : digit? d = some run.value := by
      refine digit?_eq_some_iff.mpr ⟨hd, ?_⟩
      rw [DigitRun.value, DigitRun.value, hchars]
      rfl
    rw [hchars, List.singleton_append, hourDigits, twoDigits_of_not_isDigit hc, hone]
    rfl

theorem exists_of_seconds (s : List Char) :
    ∃ second, TimeSpelling.secondChars second ++ (seconds s).2 = s ∧
      (second.map DigitRun.value).getD 0 = (seconds s).1 := by
  unfold seconds
  cases hread : (after ':' s).bind twoDigits with
  | none => exact ⟨none, rfl, rfl⟩
  | some result =>
    obtain ⟨n, rest⟩ := result
    obtain ⟨digits, hafter, htwo⟩ := Option.bind_eq_some_iff.mp hread
    obtain ⟨run, rfl, hvalue⟩ := twoDigits_eq_some_iff.mp htwo
    exact ⟨some run, (after_eq_some_iff.mp hafter).symm, hvalue⟩

theorem seconds_append (second : Option (DigitRun 2 2)) {rest : List Char} (h : Gap rest) :
    seconds (TimeSpelling.secondChars second ++ rest) =
      ((second.map DigitRun.value).getD 0, rest) := by
  cases second with
  | none =>
    have hcolon : after ':' rest = none := by
      refine Option.eq_none_iff_forall_ne_some.mpr fun tail htail => ?_
      rw [after_eq_some_iff.mp htail] at h
      exact absurd (h ':' List.mem_cons_self) (by decide)
    rw [TimeSpelling.secondChars, List.nil_append, seconds, hcolon]
    rfl
  | some run =>
    rw [TimeSpelling.secondChars, List.cons_append, seconds, after_cons, Option.bind_some,
      twoDigits_append]
    rfl

theorem exists_of_readTime {s rest : List Char} {t : ClockTime} (h : readTime s = some (t, rest)) :
    ∃ spelling : TimeSpelling, spelling.toChars ++ rest = s ∧ spelling.Names t := by
  simp only [readTime, Option.bind_eq_bind, Option.bind_eq_some_iff] at h
  obtain ⟨⟨n, behind⟩, hhours, minutes, hcolon, ⟨m, tail⟩, hminutes, time, htime, hpair⟩ := h
  cases hpair
  obtain ⟨hour, rfl, rfl⟩ := exists_of_hourDigits hhours
  obtain rfl := after_eq_some_iff.mp hcolon
  obtain ⟨minute, rfl, rfl⟩ := twoDigits_eq_some_iff.mp hminutes
  obtain ⟨second, hchars, hvalue⟩ := exists_of_seconds tail
  obtain ⟨hh, hm, hs, hnano, -⟩ := ClockTime.of?_eq_some_iff.mp htime
  refine ⟨⟨hour, minute, second⟩, ?_, hh, hm, hs.trans hvalue.symm, hnano⟩
  simp only [TimeSpelling.toChars, List.append_assoc, List.cons_append, hchars]

theorem readTime_append {spelling : TimeSpelling} {t : ClockTime} (h : spelling.Names t)
    {rest : List Char} (hrest : Gap rest) :
    readTime (spelling.toChars ++ rest) = some (t, rest) := by
  have htail := seconds_append spelling.second hrest
  generalize hbehind : TimeSpelling.secondChars spelling.second ++ rest = behind at htail
  have hhours := hourDigits_append spelling.hour (show (':' : Char).isDigit = false by decide)
    (spelling.minute.chars ++ behind)
  have htime := ClockTime.of?_eq_some_iff.mpr ⟨h.hour, h.minute, h.second, h.nano, nofun⟩
  simp only [TimeSpelling.toChars, List.append_assoc, List.cons_append, hbehind, readTime, hhours,
    after_cons, twoDigits_append, htail, htime, Option.bind_eq_bind, Option.bind_some]
  rfl

theorem readDate_eq_some_iff {s rest : List Char} {d : Date} :
    readDate s = some (d, rest) ↔
      ∃ spelling : DateSpelling, spelling.toChars ++ rest = s ∧ spelling.Names d := by
  constructor
  · intro h
    simp only [readDate, Option.bind_eq_bind, Option.bind_eq_some_iff] at h
    obtain ⟨⟨y, behind⟩, hyears, months, hmark, ⟨m, tail⟩, hmonths, days, hdash, ⟨n, last⟩, hdays,
      date, hdate, hpair⟩ := h
    cases hpair
    obtain ⟨year, rfl, rfl⟩ := fourDigits_eq_some_iff.mp hyears
    obtain rfl := after_eq_some_iff.mp hmark
    obtain ⟨month, rfl, rfl⟩ := twoDigits_eq_some_iff.mp hmonths
    obtain rfl := after_eq_some_iff.mp hdash
    obtain ⟨day, rfl, rfl⟩ := twoDigits_eq_some_iff.mp hdays
    obtain ⟨hy, hm, hd⟩ := Date.of?_eq_some_iff.mp hdate
    refine ⟨⟨year, month, day⟩, ?_, hy, hm, hd⟩
    simp only [DateSpelling.toChars, List.append_assoc, List.cons_append]
  · rintro ⟨spelling, rfl, hyear, hmonth, hday⟩
    have hdate := Date.of?_eq_some_iff.mpr ⟨hyear, hmonth, hday⟩
    simp only [DateSpelling.toChars, List.append_assoc, List.cons_append, readDate,
      fourDigits_append, after_cons, twoDigits_append, hdate, Option.bind_eq_bind, Option.bind_some]
    rfl

theorem readDate_append {spelling : DateSpelling} {d : Date} (h : spelling.Names d)
    (rest : List Char) : readDate (spelling.toChars ++ rest) = some (d, rest) :=
  readDate_eq_some_iff.mpr ⟨spelling, rfl, h⟩

theorem afterSeparator_eq_some_iff {s rest : List Char} :
    afterSeparator s = some rest ↔ ∃ mark, (mark = 'T' ∨ mark = ' ') ∧ s = mark :: rest := by
  cases s with
  | nil => simp [afterSeparator]
  | cons c tail =>
    rw [afterSeparator]
    by_cases hmark : c = 'T' ∨ c = ' '
    · rw [if_pos hmark, Option.some.injEq]
      constructor
      · rintro rfl
        exact ⟨c, hmark, rfl⟩
      · rintro ⟨mark, -, hcons⟩
        exact (List.cons.inj hcons).2
    · rw [if_neg hmark]
      refine iff_of_false (by simp) ?_
      rintro ⟨mark, hsep, hcons⟩
      rw [(List.cons.inj hcons).1] at hmark
      exact hmark hsep

theorem exists_of_readBody {s rest : List Char} {t : Temporal} (h : readBody s = some (t, rest)) :
    ∃ spelling : Spelling, spelling.toChars ++ rest = s ∧ spelling.Names t := by
  unfold readBody at h
  split at h
  · rename_i hdated
    cases h
    simp only [readDated, Option.bind_eq_bind, Option.bind_eq_some_iff] at hdated
    obtain ⟨⟨d, behind⟩, hdate, hpair⟩ := hdated
    obtain ⟨day, rfl, hday⟩ := readDate_eq_some_iff.mp hdate
    split at hpair
    · rename_i htime
      cases hpair
      obtain ⟨tail, hseparator, hread⟩ := Option.bind_eq_some_iff.mp htime
      obtain ⟨mark, hmark, rfl⟩ := afterSeparator_eq_some_iff.mp hseparator
      obtain ⟨clock, rfl, hclock⟩ := exists_of_readTime hread
      refine ⟨.moment day mark hmark clock, ?_, .moment hday hclock⟩
      rw [Spelling.toChars, List.append_assoc, List.cons_append]
    · cases hpair
      exact ⟨.date day, rfl, .date hday⟩
  · obtain ⟨⟨time, behind⟩, htime, hpair⟩ := Option.map_eq_some_iff.mp h
    cases hpair
    obtain ⟨clock, hchars, hclock⟩ := exists_of_readTime htime
    exact ⟨.timeOfDay clock, hchars, .timeOfDay hclock⟩

theorem readDated_timeSpelling (clock : TimeSpelling) (rest : List Char) :
    readDated (clock.toChars ++ rest) = none := by
  have hdate : readDate (clock.toChars ++ rest) = none := by
    refine Option.eq_none_iff_forall_ne_some.mpr fun result hresult => ?_
    obtain ⟨day, hchars, -⟩ := readDate_eq_some_iff.mp hresult
    exact timeSpelling_ne_dateSpelling clock day rest _ hchars.symm
  rw [readDated, hdate]
  rfl

theorem readBody_append {spelling : Spelling} {t : Temporal} (h : spelling.Names t)
    {rest : List Char} (hrest : Gap rest) :
    readBody (spelling.toChars ++ rest) = some (t, rest) := by
  cases h with
  | @timeOfDay clock time hclock =>
    rw [Spelling.toChars, readBody, readDated_timeSpelling, readTime_append hclock hrest]
    rfl
  | @date day d hday =>
    have htime : (afterSeparator rest).bind readTime = none := by
      refine Option.eq_none_iff_forall_ne_some.mpr fun result hresult => ?_
      obtain ⟨tail, hseparator, hread⟩ := Option.bind_eq_some_iff.mp hresult
      obtain ⟨mark, -, rfl⟩ := afterSeparator_eq_some_iff.mp hseparator
      obtain ⟨clock, rfl, -⟩ := exists_of_readTime hread
      exact hrest.ne_cons_timeSpelling mark clock _ rfl
    simp only [Spelling.toChars, readBody, readDated, readDate_append hday, htime,
      Option.bind_eq_bind, Option.bind_some]
    rfl
  | @moment day mark hmark clock m hday hclock =>
    have hseparator :
        afterSeparator (mark :: (clock.toChars ++ rest)) = some (clock.toChars ++ rest) :=
      afterSeparator_eq_some_iff.mpr ⟨mark, hmark, rfl⟩
    simp only [Spelling.toChars, List.append_assoc, List.cons_append, readBody, readDated,
      readDate_append hday, hseparator, readTime_append hclock hrest, Option.bind_eq_bind,
      Option.bind_some]
    rfl

theorem exists_reading_of_parse? {s : String} {t : Temporal} (h : parse? s = some t) :
    ∃ reading : Reading, reading.toChars = s.toList ∧ reading.body.Names t := by
  simp only [parse?, parseChars?, Option.bind_eq_bind, Option.bind_eq_some_iff] at h
  obtain ⟨⟨read, behind⟩, hbody, hend⟩ := h
  split at hend
  · rename_i hgap
    cases hend
    obtain ⟨spelling, hchars, hnames⟩ := exists_of_readBody hbody
    have hbefore : Gap (s.toList.takeWhile isGap) :=
      gap_iff.mp (List.all_takeWhile)
    refine ⟨⟨_, spelling, behind, hbefore, gap_iff.mp hgap⟩, ?_, hnames⟩
    rw [Reading.toChars, hchars, List.takeWhile_append_dropWhile]
  · cases hend

theorem parse?_of_reading {s : String} {t : Temporal} {reading : Reading}
    (hchars : reading.toChars = s.toList) (hnames : reading.body.Names t) :
    parse? s = some t := by
  have hbody := readBody_append hnames reading.behind_gap
  rw [parse?, ← hchars, parseChars?, reading.dropWhile_toChars, hbody]
  exact if_pos (gap_iff.mpr reading.behind_gap)

/-- The grammar decides which texts are read and as what: a text is read as the instant that its
one reading names, and as nothing if it has no reading or its reading names nothing. -/
theorem parse?_iff_reading (s : String) :
    (∀ t, parse? s = some t ↔ ∃ reading : Reading,
        reading.toChars = s.toList ∧ reading.body.Names t) ∧
      (∀ a b : Reading, a.toChars = s.toList → b.toChars = s.toList → a = b) ∧
      (parse? s = none ↔ ∀ reading : Reading, reading.toChars = s.toList →
        ∀ t, ¬reading.body.Names t) := by
  have hread : ∀ t, parse? s = some t ↔ ∃ reading : Reading,
      reading.toChars = s.toList ∧ reading.body.Names t := fun t =>
    ⟨exists_reading_of_parse?, fun ⟨_, hchars, hnames⟩ => parse?_of_reading hchars hnames⟩
  refine ⟨hread, fun a b ha hb => Reading.toChars_inj (ha.trans hb.symm), ?_⟩
  rw [Option.eq_none_iff_forall_ne_some]
  constructor
  · intro hnone reading hchars t hnames
    exact hnone t ((hread t).mpr ⟨reading, hchars, hnames⟩)
  · intro hnames t ht
    obtain ⟨reading, hchars, hnamed⟩ := (hread t).mp ht
    exact hnames reading hchars t hnamed

end Temporal

end ShippingRules
