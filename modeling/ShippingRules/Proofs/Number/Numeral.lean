import ShippingRules.Proofs.Json.NumberText

/-!
Numerals at the front of a text, taken apart. A spelling is a numeral by its parts: a sign, digits
around a point, an exponent. Reading gives the parts of a spelling that the text starts with, and no
spelling that the text starts with is longer. A part that turns out incomplete is given back, so
the parts after it are not read either.
-/
namespace ShippingRules.Numeral

/-- Decimal digits, perhaps none. -/
structure Digits where
  chars : List Char
  isDigit : ∀ c ∈ chars, c.isDigit = true

inductive Sign where
  | absent
  | plus
  | minus

namespace Sign

def toChars : Sign → List Char
  | absent => []
  | plus => ['+']
  | minus => ['-']

def negative : Sign → Bool
  | absent | plus => false
  | minus => true

end Sign

/-- An exponent: its mark, a sign and some digits. -/
structure PowerSpelling where
  mark : Char
  sign : Sign
  digits : Digits
  isMark : mark = 'e' ∨ mark = 'E'
  present : digits.chars ≠ []

namespace PowerSpelling

def toChars (power : PowerSpelling) : List Char :=
  power.mark :: (power.sign.toChars ++ power.digits.chars)

def value (power : PowerSpelling) : Int :=
  signed power.sign.negative (Nat.ofDigitChars 10 power.digits.chars 0)

end PowerSpelling

/-- There are digits before the point or behind it. -/
def HasDigits (whole : Digits) (fraction : Option Digits) : Prop :=
  whole.chars ≠ [] ∨ ∃ digits, fraction = some digits ∧ digits.chars ≠ []

/-- A numeral by its parts. -/
structure Spelling where
  sign : Sign
  whole : Digits
  fraction : Option Digits
  power : Option PowerSpelling
  present : HasDigits whole fraction

def pointChars : Option Digits → List Char
  | none => []
  | some digits => '.' :: digits.chars

def powerChars : Option PowerSpelling → List Char
  | none => []
  | some power => power.toChars

namespace Spelling

def toChars (spelling : Spelling) : List Char :=
  spelling.sign.toChars ++
    (spelling.whole.chars ++ (pointChars spelling.fraction ++ powerChars spelling.power))

def numeral (spelling : Spelling) : Numeral where
  negative := spelling.sign.negative
  whole := spelling.whole.chars
  fraction := (spelling.fraction.map Digits.chars).getD []
  exponent := (spelling.power.map PowerSpelling.value).getD 0

theorem drop_pointChars (spelling : Spelling) :
    (pointChars spelling.fraction).drop 1 = spelling.numeral.fraction := by
  rw [numeral]
  cases spelling.fraction with
  | none => rfl
  | some digits => rfl

/-- Both sides of the point together have some digits, and nothing else. -/
theorem digits_ne_nil (spelling : Spelling) :
    spelling.numeral.whole ++ spelling.numeral.fraction ≠ [] := by
  rcases spelling.present with hwhole | ⟨digits, hfraction, hdigits⟩
  · exact List.append_ne_nil_of_left_ne_nil hwhole _
  · refine List.append_ne_nil_of_right_ne_nil _ ?_
    rw [numeral, hfraction]
    exact hdigits

theorem isDigit_of_mem (spelling : Spelling) {c : Char}
    (h : c ∈ spelling.numeral.whole ++ spelling.numeral.fraction) : c.isDigit = true := by
  rcases List.mem_append.mp h with hwhole | hfraction
  · exact spelling.whole.isDigit c hwhole
  · rw [numeral] at hfraction
    cases hpoint : spelling.fraction with
    | none => simp [hpoint] at hfraction
    | some digits =>
      rw [hpoint] at hfraction
      exact digits.isDigit c hfraction

end Spelling

/-- The texts that are numerals from end to end. -/
def IsNumeral (p : List Char) : Prop := ∃ spelling : Spelling, spelling.toChars = p

/-- The text starts with this numeral and with no longer one. -/
structure IsLongestNumeral (p s : List Char) : Prop where
  starts : p <+: s
  isNumeral : IsNumeral p
  longest : ∀ other, other <+: s → IsNumeral other → other.length ≤ p.length

theorem IsLongestNumeral.unique {p q s : List Char} (hp : IsLongestNumeral p s)
    (hq : IsLongestNumeral q s) : p = q := by
  have hlength : p.length = q.length :=
    Nat.le_antisymm (hq.longest p hp.starts hp.isNumeral) (hp.longest q hq.starts hq.isNumeral)
  exact (List.prefix_of_prefix_length_le hp.starts hq.starts hlength.le).eq_of_length hlength

section Sound

theorem exists_of_readSign {s rest : List Char} {negative : Bool}
    (h : readSign s = (negative, rest)) :
    ∃ sign : Sign, sign.toChars ++ rest = s ∧ sign.negative = negative := by
  unfold readSign at h
  split at h
  · cases h
    exact ⟨.minus, rfl, rfl⟩
  · cases h
    exact ⟨.plus, rfl, rfl⟩
  · cases h
    exact ⟨.absent, rfl, rfl⟩

theorem exists_of_digitRun {s chars rest : List Char} (h : digitRun s = (chars, rest)) :
    ∃ digits : Digits, digits.chars = chars ∧ chars ++ rest = s := by
  obtain ⟨rfl, rfl⟩ := Prod.mk.inj h
  have hdigits := List.all_eq_true.mp (List.all_takeWhile (p := Char.isDigit) (l := s))
  exact ⟨⟨_, hdigits⟩, rfl, List.takeWhile_append_dropWhile⟩

theorem exists_of_readMantissa? {s whole fraction rest : List Char}
    (h : readMantissa? s = some (whole, fraction, rest)) :
    ∃ (before : Digits) (behind : Option Digits),
      before.chars ++ (pointChars behind ++ rest) = s ∧ before.chars = whole ∧
        (behind.map Digits.chars).getD [] = fraction ∧ HasDigits before behind := by
  unfold readMantissa? at h
  cases hrun : digitRun s with
  | mk front more =>
    obtain ⟨before, hbefore, rfl⟩ := exists_of_digitRun hrun
    simp only [hrun] at h
    split at h
    · rename_i tail
      cases htail : digitRun tail with
      | mk digits behind =>
        obtain ⟨fractional, hfractional, rfl⟩ := exists_of_digitRun htail
        simp only [htail] at h
        split at h
        · cases h
        · rename_i hpresent
          cases h
          subst hbefore hfractional
          refine ⟨before, some fractional, rfl, rfl, rfl, ?_⟩
          by_cases hwhole : before.chars = []
          · exact .inr ⟨fractional, rfl, fun hempty => hpresent ⟨hwhole, hempty⟩⟩
          · exact .inl hwhole
    · split at h
      · cases h
      · rename_i hwhole
        cases h
        subst hbefore
        exact ⟨before, none, rfl, rfl, rfl, .inl hwhole⟩

theorem exists_of_readExponent {s rest : List Char} {exponent : Int}
    (h : readExponent s = (exponent, rest)) :
    ∃ power : Option PowerSpelling, powerChars power ++ rest = s ∧
      (power.map PowerSpelling.value).getD 0 = exponent := by
  unfold readExponent at h
  split at h
  · cases h
    exact ⟨none, rfl, rfl⟩
  · rename_i mark more
    split at h
    · rename_i hmark
      cases hsigned : readSign more with
      | mk negative behind =>
        obtain ⟨sign, rfl, hnegative⟩ := exists_of_readSign hsigned
        cases hrun : digitRun behind with
        | mk chars tail =>
          obtain ⟨digits, rfl, rfl⟩ := exists_of_digitRun hrun
          simp only [hsigned, hrun] at h
          split at h
          · cases h
            exact ⟨none, rfl, rfl⟩
          · rename_i hpresent
            cases h
            subst hnegative
            refine ⟨some ⟨mark, sign, digits, hmark, hpresent⟩, ?_, rfl⟩
            simp only [powerChars, PowerSpelling.toChars, List.cons_append, List.append_assoc]
    · cases h
      exact ⟨none, rfl, rfl⟩

/-- What is read is spelled at the front of the text, and the rest of the text follows it. -/
theorem exists_of_readFront? {s rest : List Char} {n : Numeral}
    (h : readFront? s = some (n, rest)) :
    ∃ spelling : Spelling, spelling.toChars ++ rest = s ∧ spelling.numeral = n := by
  cases hsigned : readSign s with
  | mk negative body =>
    obtain ⟨sign, rfl, rfl⟩ := exists_of_readSign hsigned
    simp only [readFront?, hsigned, Option.bind_eq_bind, Option.bind_eq_some_iff] at h
    obtain ⟨⟨whole, fraction, behind⟩, hmantissa, hpair⟩ := h
    obtain ⟨before, point, rfl, rfl, rfl, hpresent⟩ := exists_of_readMantissa? hmantissa
    cases hexponent : readExponent behind with
    | mk exponent tail =>
      obtain ⟨power, rfl, rfl⟩ := exists_of_readExponent hexponent
      simp only [hexponent] at hpair
      cases hpair
      refine ⟨⟨sign, before, point, power, hpresent⟩, ?_, rfl⟩
      simp only [Spelling.toChars, List.append_assoc]

end Sound

section Longest

theorem ne_of_isDigit {c d : Char} (hc : c.isDigit = true) (hd : d.isDigit = false) : c ≠ d := by
  rintro rfl
  exact absurd (hc.symm.trans hd) (by decide)

theorem readSign_append (sign : Sign) {c : Char} (hplus : c ≠ '+') (hminus : c ≠ '-')
    (rest : List Char) : readSign (sign.toChars ++ c :: rest) = (sign.negative, c :: rest) := by
  cases sign with
  | absent =>
    rw [Sign.toChars, List.nil_append]
    unfold readSign
    split
    · rename_i heq
      exact absurd (List.cons.inj heq).1 hminus
    · rename_i heq
      exact absurd (List.cons.inj heq).1 hplus
    · rfl
  | plus => rfl
  | minus => rfl

/-- A sign ends where digits or a point follow. -/
theorem readSign_body (sign : Sign) (whole : Digits) (fraction : Option Digits) (rest : List Char)
    (present : HasDigits whole fraction) :
    readSign (sign.toChars ++ (whole.chars ++ (pointChars fraction ++ rest))) =
      (sign.negative, whole.chars ++ (pointChars fraction ++ rest)) := by
  cases hwhole : whole.chars with
  | nil =>
    rcases present with hpresent | ⟨digits, rfl, -⟩
    · exact absurd hwhole hpresent
    · exact readSign_append sign (by decide) (by decide) _
  | cons c tail =>
    have hc : c.isDigit = true := whole.isDigit c (by simp [hwhole])
    exact readSign_append sign (ne_of_isDigit hc (by decide)) (ne_of_isDigit hc (by decide)) _

theorem digitRun_append (digits : Digits) (rest : List Char) :
    digitRun (digits.chars ++ rest) = (digits.chars ++ (digitRun rest).1, (digitRun rest).2) := by
  rw [digitRun, List.takeWhile_append_of_pos digits.isDigit,
    List.dropWhile_append_of_pos digits.isDigit]
  rfl

theorem digitRun_rest (s : List Char) : (digitRun s).2 <:+ s := List.dropWhile_suffix _

theorem digitRun_of_head {s : List Char} (h : ∀ c, s.head? = some c → c.isDigit = false) :
    digitRun s = ([], s) := by
  have hnone : ∀ c ∈ ([] : List Char), c.isDigit = true := by simp
  exact Json.digitRun_append hnone h

theorem readExponent_rest (s : List Char) : (readExponent s).2 <:+ s := by
  obtain ⟨power, hs, -⟩ := exists_of_readExponent (s := s) rfl
  exact ⟨_, hs⟩

/-- The mantissa of a spelling is read to its end at least, and not beyond an exponent mark. -/
theorem readMantissa?_append (whole : Digits) (fraction : Option Digits) (rest : List Char)
    (present : HasDigits whole fraction) :
    ∃ before behind tail,
      readMantissa? (whole.chars ++ (pointChars fraction ++ rest)) = some (before, behind, tail) ∧
        tail <:+ rest ∧
        ((∀ c, rest.head? = some c → c.isDigit = false ∧ c ≠ '.') → tail = rest) := by
  have hstop : (∀ c, rest.head? = some c → c.isDigit = false ∧ c ≠ '.') →
      (digitRun rest).2 = rest := fun h => by rw [digitRun_of_head fun c hc => (h c hc).1]
  cases fraction with
  | none =>
    have hwhole : whole.chars ≠ [] := Or.resolve_right present (by simp)
    have hne : whole.chars ++ (digitRun rest).1 ≠ [] := List.append_ne_nil_of_left_ne_nil hwhole _
    simp only [pointChars, List.nil_append, readMantissa?, digitRun_append]
    split
    · rename_i more hmore
      rw [if_neg fun hempty => hne hempty.1]
      have hbehind : more <:+ rest := (List.suffix_cons _ _).trans (hmore ▸ digitRun_rest rest)
      refine ⟨_, _, _, rfl, (digitRun_rest more).trans hbehind, fun h => ?_⟩
      have hpoint : rest.head? = some '.' := by rw [← hstop h, hmore, List.head?_cons]
      exact absurd rfl (h '.' hpoint).2
    · rw [if_neg hne]
      exact ⟨_, _, _, rfl, digitRun_rest rest, hstop⟩
  | some digits =>
    have hne : ¬(whole.chars = [] ∧ digits.chars ++ (digitRun rest).1 = []) := by
      rintro ⟨hwhole, hfraction⟩
      rcases present with hpresent | ⟨_, hsome, hpresent⟩
      · exact hpresent hwhole
      · cases hsome
        exact hpresent (List.append_eq_nil_iff.mp hfraction).1
    have hrun : digitRun (whole.chars ++ '.' :: (digits.chars ++ rest)) =
        (whole.chars, '.' :: (digits.chars ++ rest)) :=
      Json.digitRun_append whole.isDigit (by simp)
    simp only [pointChars, List.cons_append, readMantissa?, hrun, digitRun_append, if_neg hne]
    exact ⟨_, _, _, rfl, digitRun_rest rest, hstop⟩

theorem readSign_power (power : PowerSpelling) (rest : List Char) :
    readSign (power.sign.toChars ++ (power.digits.chars ++ rest)) =
      (power.sign.negative, power.digits.chars ++ rest) := by
  obtain ⟨c, tail, hchars⟩ := List.exists_cons_of_ne_nil power.present
  have hc : c.isDigit = true := power.digits.isDigit c (by simp [hchars])
  rw [hchars, List.cons_append]
  exact readSign_append power.sign (ne_of_isDigit hc (by decide)) (ne_of_isDigit hc (by decide)) _

theorem readExponent_append (power : PowerSpelling) (rest : List Char) :
    (readExponent (power.toChars ++ rest)).2 <:+ rest := by
  have hne : power.digits.chars ++ (digitRun rest).1 ≠ [] :=
    List.append_ne_nil_of_left_ne_nil power.present _
  simp only [PowerSpelling.toChars, List.cons_append, List.append_assoc, readExponent,
    if_pos power.isMark, readSign_power, digitRun_append, if_neg hne]
  exact digitRun_rest rest

/-- Reading succeeds where a spelling starts, and stops at its end or behind it. -/
theorem readFront?_append (spelling : Spelling) (rest : List Char) :
    ∃ n tail, readFront? (spelling.toChars ++ rest) = some (n, tail) ∧ tail <:+ rest := by
  obtain ⟨before, behind, middle, hmantissa, hmiddle, hstop⟩ :=
    readMantissa?_append spelling.whole spelling.fraction (powerChars spelling.power ++ rest)
      spelling.present
  have hsign := readSign_body spelling.sign spelling.whole spelling.fraction
    (powerChars spelling.power ++ rest) spelling.present
  have htail : (readExponent middle).2 <:+ rest := by
    cases hpower : spelling.power with
    | none =>
      rw [hpower] at hmiddle
      exact (readExponent_rest middle).trans hmiddle
    | some power =>
      have hmark : ∀ c, (powerChars spelling.power ++ rest).head? = some c →
          c.isDigit = false ∧ c ≠ '.' := by
        intro c hc
        rw [hpower] at hc
        cases hc
        rcases power.isMark with hmark | hmark
        · simp [hmark]
        · simp [hmark]
      rw [hstop hmark, hpower]
      exact readExponent_append power rest
  refine ⟨⟨spelling.sign.negative, before, behind, (readExponent middle).1⟩, _, ?_, htail⟩
  simp only [Spelling.toChars, List.append_assoc, readFront?, hsign, hmantissa, Option.bind_eq_bind,
    Option.bind_some]
  rfl

/-- What is read is the longest numeral that the text starts with. -/
theorem exists_longest_of_readFront? {s rest : List Char} {n : Numeral}
    (h : readFront? s = some (n, rest)) :
    ∃ spelling : Spelling, IsLongestNumeral spelling.toChars s ∧ spelling.numeral = n := by
  obtain ⟨spelling, rfl, hnumeral⟩ := exists_of_readFront? h
  refine ⟨spelling, ⟨List.prefix_append _ _, ⟨spelling, rfl⟩, ?_⟩, hnumeral⟩
  rintro _ ⟨tail, hs⟩ ⟨other, rfl⟩
  obtain ⟨_, behind, hread, hbehind⟩ := readFront?_append other tail
  rw [hs, h] at hread
  cases hread
  have hlengths := congrArg List.length hs
  have hshorter := hbehind.length_le
  simp only [List.length_append] at hlengths
  omega

/-- Nothing is read just where the text starts with no numeral. -/
theorem readFront?_eq_none_iff {s : List Char} :
    readFront? s = none ↔ ∀ p, p <+: s → ¬IsNumeral p := by
  constructor
  · rintro hnone _ ⟨rest, rfl⟩ ⟨spelling, rfl⟩
    obtain ⟨n, tail, hread, -⟩ := readFront?_append spelling rest
    exact absurd (hnone.symm.trans hread) (by simp)
  · intro h
    cases hread : readFront? s with
    | none => rfl
    | some found =>
      obtain ⟨spelling, hlongest, -⟩ := exists_longest_of_readFront? hread
      exact absurd hlongest.isNumeral (h _ hlongest.starts)

/-- A point may end a numeral. A mark and a sign may not, so they are given back. -/
example : readFront? ['1', '.', 'e', '+'] = some (⟨false, ['1'], [], 0⟩, ['e', '+']) := by decide

end Longest

end ShippingRules.Numeral
