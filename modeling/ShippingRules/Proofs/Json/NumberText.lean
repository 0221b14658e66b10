import ShippingRules.Json.Reader
import ShippingRules.Json.Text
import ShippingRules.Proofs.Number.Overflow

/-!
Numbers in JSON text. A spelling is a numeral in the form that the writer gives to every number:
digits, perhaps digits after a point, perhaps an exponent with its sign. The reader takes a spelling
from the front of a text as long as what follows cannot extend it. The spelling of a whole number is
read as that number; the spelling of a double is the shortest numeral that the double is nearest to,
and it is read as that double where scaling finds the nearest one.
-/
namespace ShippingRules.Json

/-- What may follow a number: the text ends, or goes on with something that extends no number. -/
def EndsNumber (rest : List Char) : Prop :=
  ∀ c, rest.head? = some c → c.isDigit = false ∧ c ≠ '.' ∧ c ≠ 'e' ∧ c ≠ 'E'

theorem endsNumber_nil : EndsNumber [] := by
  intro c h
  cases h

theorem endsNumber_cons {c : Char} (rest : List Char)
    (h : c.isDigit = false ∧ c ≠ '.' ∧ c ≠ 'e' ∧ c ≠ 'E') : EndsNumber (c :: rest) := by
  intro head hhead
  cases hhead
  exact h

/-- Digits are taken up to the first character that is none. -/
theorem digitRun_append {digits rest : List Char} (hdigits : ∀ c ∈ digits, c.isDigit = true)
    (hrest : ∀ c, rest.head? = some c → c.isDigit = false) :
    Numeral.digitRun (digits ++ rest) = (digits, rest) := by
  induction digits with
  | nil =>
    cases rest with
    | nil => rfl
    | cons c tail =>
      have hc := hrest c rfl
      simp [Numeral.digitRun, hc]
  | cons c tail ih =>
    have hc : c.isDigit = true := hdigits c List.mem_cons_self
    have htail := ih fun d hd => hdigits d (List.mem_cons_of_mem _ hd)
    simp only [Numeral.digitRun, Prod.mk.injEq] at htail
    simp [Numeral.digitRun, hc, htail]

/-- The point and the digits after it, if there are any. -/
def fractionText (fraction : List Char) : List Char :=
  if fraction = [] then [] else '.' :: fraction

/-- The exponent mark, a sign and the digits of the exponent, if there is one. -/
def powerText : Option Int → List Char
  | none => []
  | some power => 'e' :: (if power < 0 then '-' else '+') :: Nat.toDigits 10 power.natAbs

theorem readFraction_fractionText {fraction rest : List Char}
    (hfraction : ∀ c ∈ fraction, c.isDigit = true)
    (hrest : ∀ c, rest.head? = some c → c.isDigit = false ∧ c ≠ '.') :
    readFraction (fractionText fraction ++ rest) = some (fraction, rest) := by
  by_cases hempty : fraction = []
  · subst hempty
    cases rest with
    | nil => rfl
    | cons c tail =>
      have hc : c ≠ '.' := (hrest c rfl).2
      simp [fractionText, readFraction, hc]
  · have hrun := digitRun_append hfraction fun c hc => (hrest c hc).1
    simp [fractionText, hempty, readFraction, hrun]

theorem readPower_powerText (power : Option Int) {rest : List Char}
    (hrest : ∀ c, rest.head? = some c → c.isDigit = false ∧ c ≠ 'e' ∧ c ≠ 'E') :
    readPower (powerText power ++ rest) = some (power, rest) := by
  cases power with
  | none =>
    cases rest with
    | nil => rfl
    | cons c tail =>
      have hc := (hrest c rfl).2
      simp [powerText, readPower, hc]
  | some power =>
    have hdigits : ∀ c ∈ Nat.toDigits 10 power.natAbs, c.isDigit = true := fun c hc =>
      Nat.isDigit_of_mem_toDigits (by decide) (by decide) hc
    have hrun := digitRun_append hdigits fun c hc => (hrest c hc).1
    by_cases hneg : power < 0
    · have habs : -(power.natAbs : Int) = power := by omega
      simp only [powerText, hneg, if_true, List.cons_append, readPower, true_or, if_true,
        Numeral.readSign, hrun, Nat.toDigits_ne_nil, if_false, Nat.ofDigitChars_ten_toDigits,
        Numeral.signed, habs]
    · have habs : (power.natAbs : Int) = power := by omega
      simp only [powerText, hneg, if_false, List.cons_append, readPower, true_or, if_true,
        Numeral.readSign, hrun, Nat.toDigits_ne_nil, Nat.ofDigitChars_ten_toDigits,
        Numeral.signed, habs, Bool.false_eq_true]

/-- The parts of a written number. A zero leads only when it stands alone before the point. -/
structure Spelling where
  whole : List Char
  fraction : List Char
  power : Option Int
  wholeDigits : ∀ c ∈ whole, c.isDigit = true
  fractionDigits : ∀ c ∈ fraction, c.isDigit = true
  present : whole ≠ []
  leading : whole.head? = some '0' → whole = ['0']

namespace Spelling

def toChars (spelling : Spelling) : List Char :=
  spelling.whole ++ fractionText spelling.fraction ++ powerText spelling.power

def numeral (spelling : Spelling) (negative : Bool) : Numeral :=
  ⟨negative, spelling.whole, spelling.fraction, spelling.power.getD 0⟩

def isWhole (spelling : Spelling) : Bool := spelling.fraction.isEmpty && spelling.power.isNone

end Spelling

def signText (negative : Bool) : List Char := if negative then ['-'] else []

theorem not_digit_of_power (power : Option Int) {rest : List Char} (h : EndsNumber rest) (c : Char)
    (hc : (powerText power ++ rest).head? = some c) : c.isDigit = false ∧ c ≠ '.' := by
  cases power with
  | none => exact ⟨(h c hc).1, (h c hc).2.1⟩
  | some power =>
    cases hc
    decide

theorem not_digit_of_fraction (fraction : List Char) (power : Option Int) {rest : List Char}
    (h : EndsNumber rest) (c : Char)
    (hc : (fractionText fraction ++ (powerText power ++ rest)).head? = some c) :
    c.isDigit = false := by
  by_cases hempty : fraction = []
  · simp only [fractionText, hempty, if_true, List.nil_append] at hc
    exact (not_digit_of_power power h c hc).1
  · simp only [fractionText, hempty, if_false, List.cons_append, List.head?_cons,
      Option.some.injEq] at hc
    subst hc
    decide

theorem readMinus_signText (negative : Bool) (spelling : Spelling) (rest : List Char) :
    readMinus (signText negative ++ (spelling.toChars ++ rest)) =
      (negative, spelling.toChars ++ rest) := by
  cases negative with
  | true => rfl
  | false =>
    obtain ⟨c, tail, hwhole⟩ := List.exists_cons_of_ne_nil spelling.present
    have hc : c.isDigit = true := spelling.wholeDigits c (hwhole ▸ List.mem_cons_self)
    have hne : c ≠ '-' := by
      rintro rfl
      exact absurd hc (by decide)
    simp [signText, Spelling.toChars, hwhole, readMinus, hne]

/-- A spelling is read up to its end. -/
theorem readNumeral_spelling (negative : Bool) (spelling : Spelling) {rest : List Char}
    (h : EndsNumber rest) :
    readNumeral (signText negative ++ (spelling.toChars ++ rest)) =
      some ((spelling.numeral negative, spelling.isWhole), rest) := by
  have hfront := readMinus_signText negative spelling rest
  have hwhole := digitRun_append spelling.wholeDigits
    (not_digit_of_fraction spelling.fraction spelling.power h)
  have hfraction := readFraction_fractionText spelling.fractionDigits
    (not_digit_of_power spelling.power h)
  have hpower := readPower_powerText spelling.power fun c hc => ⟨(h c hc).1, (h c hc).2.2⟩
  have hlead : ¬(spelling.whole = [] ∨
      spelling.whole.head? = some '0' ∧ spelling.whole ≠ ['0']) := by
    rintro (hnil | ⟨hzero, hne⟩)
    · exact spelling.present hnil
    · exact hne (spelling.leading hzero)
  unfold readNumeral
  rw [hfront]
  simp only [Spelling.toChars, List.append_assoc, hwhole, hlead, if_false, hfraction, hpower,
    Option.bind_eq_bind, Option.bind_some]
  rfl

/-- The numeral of a spelling decides which number it is. -/
theorem readNumber_spelling (negative : Bool) (spelling : Spelling) {rest : List Char}
    (h : EndsNumber rest) :
    readNumber (signText negative ++ (spelling.toChars ++ rest)) =
      (Number.of? (spelling.numeral negative) spelling.isWhole).map (·, rest) := by
  rw [readNumber, readNumeral_spelling negative spelling h]
  cases hnumber : Number.of? (spelling.numeral negative) spelling.isWhole <;> simp [hnumber]

theorem isDigit_of_mem_toDigits {n : Nat} : ∀ c ∈ Nat.toDigits 10 n, c.isDigit = true :=
  fun _ h => Nat.isDigit_of_mem_toDigits (by decide) (by decide) h

theorem head?_toDigits_ne {n : Nat} (h : 0 < n) : (Nat.toDigits 10 n).head? ≠ some '0' := by
  induction n using Nat.strongRecOn with
  | ind n ih =>
    by_cases hsmall : n < 10
    · rw [Nat.toDigits_of_lt_base hsmall]
      have hdigit : ∀ m, m < 10 → 0 < m → Nat.digitChar m ≠ '0' := by decide
      simpa using hdigit n hsmall h
    · have hfront := ih (n / 10) (by omega) (by omega)
      obtain ⟨c, tail, hcons⟩ := List.exists_cons_of_ne_nil
        (Nat.toDigits_ne_nil (n := n / 10) (b := 10))
      rw [Nat.toDigits_of_base_le (by decide) (by omega), hcons]
      rw [hcons] at hfront
      exact hfront

theorem toDigits_leading (n : Nat) (h : (Nat.toDigits 10 n).head? = some '0') :
    Nat.toDigits 10 n = ['0'] := by
  by_cases hn : n = 0
  · rw [hn, Nat.toDigits_zero]
  · exact absurd h (head?_toDigits_ne (by omega))

/-- The spelling of a whole number. -/
def wholeSpelling (n : Nat) : Spelling where
  whole := Nat.toDigits 10 n
  fraction := []
  power := none
  wholeDigits := isDigit_of_mem_toDigits
  fractionDigits := by simp
  present := Nat.toDigits_ne_nil
  leading := toDigits_leading n

theorem isDigit_zero : ∀ c ∈ ['0'], c.isDigit = true := by
  intro c hc
  cases List.mem_singleton.mp hc
  rfl

/-- The spelling of zero as a double. -/
def zeroSpelling : Spelling where
  whole := ['0']
  fraction := ['0']
  power := none
  wholeDigits := isDigit_zero
  fractionDigits := isDigit_zero
  present := by decide
  leading := fun _ => rfl

/-- A positive decimal is written with a point or an exponent, and its spelling is a numeral of the
same double. -/
structure Spells (spelling : Spelling) (d : Decimal) : Prop where
  text : Decimal.render doubleLayout d = spelling.toChars
  notWhole : spelling.isWhole = false
  nearest (negative : Bool) : (spelling.numeral negative).decimal.nearestBits = d.nearestBits

section Rendering

variable {d : Decimal}

/-- Digits and zeros before the point, and a zero after it. -/
theorem spells_whole (hpos : 0 < d.coefficient)
    (hpositional : doubleLayout.positional
      (d.exponent + (Nat.toDigits 10 d.coefficient).length - 1) = true)
    (hexponent : 0 ≤ d.exponent) : ∃ spelling, Spells spelling d := by
  refine ⟨{
    whole := Nat.toDigits 10 d.coefficient ++ List.replicate d.exponent.toNat '0'
    fraction := ['0']
    power := none
    wholeDigits := ?_
    fractionDigits := isDigit_zero
    present := by simp
    leading := ?_ }, ?_, rfl, ?_⟩
  · intro c hc
    rcases List.mem_append.mp hc with hc | hc
    · exact isDigit_of_mem_toDigits c hc
    · rw [List.eq_of_mem_replicate hc]
      decide
  · intro hzero
    obtain ⟨c, tail, hcons⟩ := List.exists_cons_of_ne_nil
      (Nat.toDigits_ne_nil (n := d.coefficient) (b := 10))
    have hhead := head?_toDigits_ne hpos
    rw [hcons] at hzero hhead
    exact absurd hzero hhead
  · simp only [Decimal.render, if_pos hpositional, if_pos hexponent, Spelling.toChars, powerText,
      List.append_nil]
    rfl
  · intro negative
    have hvalue : Nat.ofDigitChars 10 (Nat.toDigits 10 d.coefficient ++
        List.replicate d.exponent.toNat '0' ++ ['0']) 0 =
          d.coefficient * Nat.pow 10 (d.exponent.toNat + 1) := by
      simp only [Nat.ofDigitChars_append, Nat.ofDigitChars_ten_toDigits,
        Nat.ofDigitChars_replicate_zero, Nat.ofDigitChars_cons, Nat.ofDigitChars_nil,
        Nat.sub_self, Nat.add_zero, Nat.pow_eq, Nat.pow_succ]
      ring
    have hshift := Decimal.nearestBits_shift d.coefficient (d.exponent.toNat + 1) (-1)
    have hsum : (-1 : Int) + ((d.exponent.toNat + 1 : Nat) : Int) = d.exponent := by omega
    rw [hsum] at hshift
    simp only [Numeral.decimal, Spelling.numeral, hvalue]
    exact hshift

/-- Some digits before the point and some after it. -/
theorem spells_split (hpos : 0 < d.coefficient)
    (hpositional : doubleLayout.positional
      (d.exponent + (Nat.toDigits 10 d.coefficient).length - 1) = true)
    (hexponent : ¬0 ≤ d.exponent)
    (hlead : 0 ≤ d.exponent + (Nat.toDigits 10 d.coefficient).length - 1) :
    ∃ spelling, Spells spelling d := by
  have hdigits := isDigit_of_mem_toDigits (n := d.coefficient)
  have hhead := head?_toDigits_ne hpos
  have hvalue := Nat.ofDigitChars_ten_toDigits (n := d.coefficient)
  generalize hd : Nat.toDigits 10 d.coefficient = digits at *
  obtain ⟨k, hk⟩ : ∃ k, (d.exponent + digits.length - 1 + 1).toNat = k + 1 :=
    ⟨(d.exponent + digits.length - 1).toNat, by omega⟩
  have hlength : k + 1 < digits.length := by omega
  have hfraction : digits.drop (k + 1) ≠ [] := by
    simp only [ne_eq, List.drop_eq_nil_iff]
    omega
  refine ⟨{
    whole := digits.take (k + 1)
    fraction := digits.drop (k + 1)
    power := none
    wholeDigits := fun c hc => hdigits c (List.mem_of_mem_take hc)
    fractionDigits := fun c hc => hdigits c (List.mem_of_mem_drop hc)
    present := ?_
    leading := ?_ }, ?_, ?_, ?_⟩
  · simp only [ne_eq, List.take_eq_nil_iff]
    rintro (hzero | rfl)
    · omega
    · simp at hlength
  · intro hzero
    rw [List.head?_take, if_neg (by omega)] at hzero
    exact absurd hzero hhead
  · simp only [Decimal.render, hd, if_pos hpositional, if_neg hexponent, if_pos hlead, hk,
      Spelling.toChars, fractionText, if_neg hfraction, powerText, List.append_nil]
  · simp [Spelling.isWhole, hlength]
  · intro negative
    have hsum : (0 : Int) - (digits.drop (k + 1)).length = d.exponent := by
      rw [List.length_drop]
      omega
    simp only [Numeral.decimal, Spelling.numeral, List.take_append_drop, hvalue, Option.getD_none,
      hsum]

/-- A zero before the point, and zeros between the point and the digits. -/
theorem spells_fraction (hpositional : doubleLayout.positional
      (d.exponent + (Nat.toDigits 10 d.coefficient).length - 1) = true)
    (hexponent : ¬0 ≤ d.exponent)
    (hlead : ¬0 ≤ d.exponent + (Nat.toDigits 10 d.coefficient).length - 1) :
    ∃ spelling, Spells spelling d := by
  have hdigits := isDigit_of_mem_toDigits (n := d.coefficient)
  have hvalue := Nat.ofDigitChars_ten_toDigits (n := d.coefficient)
  have hne := Nat.toDigits_ne_nil (n := d.coefficient) (b := 10)
  generalize hd : Nat.toDigits 10 d.coefficient = digits at *
  generalize hzeros : (-(d.exponent + digits.length - 1) - 1).toNat = zeros
  have hfraction : List.replicate zeros '0' ++ digits ≠ [] := by simp [hne]
  refine ⟨{
    whole := ['0']
    fraction := List.replicate zeros '0' ++ digits
    power := none
    wholeDigits := isDigit_zero
    fractionDigits := ?_
    present := by decide
    leading := fun _ => rfl }, ?_, ?_, ?_⟩
  · intro c hc
    rcases List.mem_append.mp hc with hc | hc
    · rw [List.eq_of_mem_replicate hc]
      decide
    · exact hdigits c hc
  · simp only [Decimal.render, hd, if_pos hpositional, if_neg hexponent, if_neg hlead, hzeros,
      Spelling.toChars, fractionText, if_neg hfraction, powerText, List.append_nil]
    rfl
  · simp [Spelling.isWhole, hne]
  · intro negative
    have hsum : (0 : Int) - (List.replicate zeros '0' ++ digits).length = d.exponent := by
      rw [List.length_append, List.length_replicate]
      omega
    have hcoefficient : Nat.ofDigitChars 10 (['0'] ++ (List.replicate zeros '0' ++ digits)) 0 =
        d.coefficient := by
      simp only [Nat.ofDigitChars_append, Nat.ofDigitChars_cons, Nat.ofDigitChars_nil,
        Nat.ofDigitChars_replicate_zero, Nat.sub_self, Nat.mul_zero, Nat.add_zero, hvalue]
    simp only [Numeral.decimal, Spelling.numeral, hcoefficient, Option.getD_none, hsum]

/-- One digit before the point, the others after it, and an exponent. -/
theorem spells_power (hpos : 0 < d.coefficient)
    (hpositional : ¬doubleLayout.positional
      (d.exponent + (Nat.toDigits 10 d.coefficient).length - 1) = true) :
    ∃ spelling, Spells spelling d := by
  have hdigits := isDigit_of_mem_toDigits (n := d.coefficient)
  have hhead := head?_toDigits_ne hpos
  have hvalue := Nat.ofDigitChars_ten_toDigits (n := d.coefficient)
  have hne := Nat.toDigits_ne_nil (n := d.coefficient) (b := 10)
  generalize hd : Nat.toDigits 10 d.coefficient = digits at *
  have hpositive := List.length_pos_iff.mpr hne
  have hfraction : fractionText (digits.drop 1) =
      if digits.length ≤ 1 then [] else '.' :: digits.drop 1 := by
    simp only [fractionText, List.drop_eq_nil_iff]
  refine ⟨{
    whole := digits.take 1
    fraction := digits.drop 1
    power := some (d.exponent + digits.length - 1)
    wholeDigits := fun c hc => hdigits c (List.mem_of_mem_take hc)
    fractionDigits := fun c hc => hdigits c (List.mem_of_mem_drop hc)
    present := ?_
    leading := ?_ }, ?_, ?_, ?_⟩
  · simp [hne]
  · intro hzero
    rw [List.head?_take, if_neg (by omega)] at hzero
    exact absurd hzero hhead
  · simp only [Decimal.render, hd, if_neg hpositional, Spelling.toChars, hfraction, powerText]
  · simp [Spelling.isWhole]
  · intro negative
    have hsum : d.exponent + digits.length - 1 - (digits.drop 1).length = d.exponent := by
      rw [List.length_drop]
      omega
    simp only [Numeral.decimal, Spelling.numeral, List.take_append_drop, hvalue, Option.getD_some,
      hsum]

theorem exists_spelling (hpos : 0 < d.coefficient) : ∃ spelling, Spells spelling d := by
  by_cases hpositional : doubleLayout.positional
      (d.exponent + (Nat.toDigits 10 d.coefficient).length - 1) = true
  · by_cases hexponent : 0 ≤ d.exponent
    · exact spells_whole hpos hpositional hexponent
    · by_cases hlead : 0 ≤ d.exponent + (Nat.toDigits 10 d.coefficient).length - 1
      · exact spells_split hpos hpositional hexponent hlead
      · exact spells_fraction hpositional hexponent hlead
  · exact spells_power hpos hpositional

end Rendering

/-- The number that a numeral names: a whole number is written out, and a double is the nearest
one. -/
def Names (numeral : Numeral) (isWhole : Bool) : Number → Prop
  | .whole value _ => isWhole = true ∧ ¬(numeral.negative = true ∧ value = 0) ∧
    Numeral.signed numeral.negative (Nat.ofDigitChars 10 numeral.whole 0) = value
  | .double x _ => isWhole = false ∧ numeral.toDouble = x

/-- Every number is written as a sign and a spelling that names it. -/
theorem exists_spelling_of_number (n : Number) :
    ∃ negative, ∃ spelling : Spelling, n.toChars = signText negative ++ spelling.toChars ∧
      Names (spelling.numeral negative) spelling.isWhole n := by
  cases n with
  | whole value fits =>
    refine ⟨decide (value < 0), wholeSpelling value.natAbs, ?_, rfl, ?_, ?_⟩
    · simp [Number.toChars, signText, Spelling.toChars, wholeSpelling, fractionText, powerText]
    · simp only [Spelling.numeral, decide_eq_true_eq]
      omega
    · simp only [Spelling.numeral, wholeSpelling, Numeral.signed, Nat.ofDigitChars_ten_toDigits,
        decide_eq_true_eq]
      split <;> omega
  | double x finite =>
    have hlt : x.magnitude < Double.infinityBits := by simpa [Double.isFinite] using finite
    by_cases hzero : x.magnitude = 0
    · refine ⟨x.isNegative, zeroSpelling, ?_, rfl, ?_⟩
      · simp only [Number.toChars, Decimal.Layout.text, hzero, if_true]
        rfl
      · have hbits : (zeroSpelling.numeral x.isNegative).decimal.nearestBits = x.magnitude := by
          rw [hzero]
          rfl
        rw [Numeral.toDouble, Decimal.toDouble, hbits]
        exact Double.ofMagnitude_magnitude x
    · have hshortest := Decimal.nearestBits_shortest doubleLayout.tie hlt
      have hstrip := Decimal.nearestBits_stripZeros (Decimal.shortest doubleLayout.tie x.magnitude)
      have hpos : 0 < (Decimal.shortest doubleLayout.tie x.magnitude).stripZeros.coefficient :=
        Decimal.coefficient_pos (by rw [hstrip, hshortest]; exact hzero)
      obtain ⟨spelling, hspells⟩ := exists_spelling hpos
      refine ⟨x.isNegative, spelling, ?_, hspells.notWhole, ?_⟩
      · simp only [Number.toChars, Decimal.Layout.text, hzero, if_false, hspells.text]
        rfl
      · have hbits : (spelling.numeral x.isNegative).decimal.nearestBits = x.magnitude := by
          rw [hspells.nearest, hstrip, hshortest]
        rw [Numeral.toDouble, Decimal.toDouble, hbits]
        exact Double.ofMagnitude_magnitude x

namespace Number

/-- What a number is read as once it has been written. -/
def reread (n : Number) : Option Number := (readNumber n.toChars).map (·.1)

/-- A number that is read as itself once it has been written. -/
def ReadsBack (n : Number) : Prop := n.reread = some n

instance (n : Number) : Decidable n.ReadsBack := inferInstanceAs (Decidable (n.reread = some n))

end Number

/-- Wherever the text of a number stands, it is read as the same number. -/
theorem readNumber_toChars (n : Number) {rest : List Char} (h : EndsNumber rest) :
    readNumber (n.toChars ++ rest) = n.reread.map (·, rest) := by
  obtain ⟨negative, spelling, htext, -⟩ := exists_spelling_of_number n
  have halone := readNumber_spelling negative spelling endsNumber_nil
  rw [List.append_nil] at halone
  rw [Number.reread, htext, List.append_assoc, readNumber_spelling negative spelling h, halone]
  simp only [Option.map_map]
  rfl

/-- Whole numbers are read back. -/
theorem readsBack_whole (value : Int) (fits : FitsWord value) :
    (Number.whole value fits).ReadsBack := by
  obtain ⟨negative, spelling, htext, hwhole, hzero, hvalue⟩ :=
    exists_spelling_of_number (.whole value fits)
  have halone := readNumber_spelling negative spelling endsNumber_nil
  have hnumber : Number.of? (spelling.numeral negative) true = some (.whole value fits) := by
    simp only [Number.of?, hvalue]
    exact dif_pos ⟨⟨trivial, hzero⟩, fits⟩
  rw [List.append_nil, hwhole, hnumber] at halone
  rw [Number.ReadsBack, Number.reread, htext, halone]
  rfl

/-- A double is read back if its text has a significand below 2^53 and at most 22 places to the
point. -/
theorem readsBack_double {x : Double} {finite : x.isFinite = true} {numeral : Numeral}
    {isWhole : Bool}
    (htext : readNumeral (Number.double x finite).toChars = some ((numeral, isWhole), []))
    (hcoefficient : numeral.decimal.coefficient < 2 ^ 53)
    (hexponent : numeral.decimal.exponent.natAbs ≤ 22) :
    (Number.double x finite).ReadsBack := by
  obtain ⟨negative, spelling, hspelling, hpoint, hnearest⟩ :=
    exists_spelling_of_number (.double x finite)
  have halone := readNumeral_spelling negative spelling endsNumber_nil
  rw [List.append_nil, ← hspelling, hpoint] at halone
  cases htext.symm.trans halone
  have hscaled : (spelling.numeral negative).scaled = x :=
    (Numeral.scaled_eq_toDouble hcoefficient hexponent).trans hnearest
  have hnumber : Number.of? (spelling.numeral negative) false = some (.double x finite) := by
    simp [Number.of?, hscaled, finite]
  rw [Number.ReadsBack, Number.reread, readNumber, halone]
  simp [hnumber]

/-- The price 19.99 is read back. -/
example : (Number.double ⟨0x4033fd70a3d70a3d⟩ (by decide)).ReadsBack := by decide +kernel

/-- What is written as a number is read as some number. Only the text of the largest double could be
scaled to infinity, and it is not. -/
theorem Number.isSome_reread (n : Number) : n.reread.isSome = true := by
  cases n with
  | whole value fits => rw [(readsBack_whole value fits : _ = _), Option.isSome_some]
  | double x finite =>
    have hlt : x.magnitude < Double.infinityBits := by simpa [Double.isFinite] using finite
    by_cases hlargest : x.magnitude + 1 < Double.infinityBits
    · obtain ⟨negative, spelling, htext, hpoint, hnearest⟩ :=
        exists_spelling_of_number (.double x finite)
      rw [← hnearest, Numeral.magnitude_toDouble] at hlargest
      have hscaled := Numeral.isFinite_scaled hlargest
      have halone := readNumber_spelling negative spelling endsNumber_nil
      rw [List.append_nil, ← htext, hpoint] at halone
      rw [Number.reread, halone]
      simp [Number.of?, hscaled]
    · have hlast : ∀ negative (hfinite : (Double.ofMagnitude negative
          (Double.infinityBits - 1)).isFinite = true),
          (Number.double (Double.ofMagnitude negative (Double.infinityBits - 1)) hfinite).ReadsBack
            := by
        decide +kernel
      have hmagnitude : x.magnitude = Double.infinityBits - 1 := by omega
      obtain ⟨negative, rfl⟩ : ∃ negative,
          Double.ofMagnitude negative (Double.infinityBits - 1) = x :=
        ⟨x.isNegative, hmagnitude ▸ Double.ofMagnitude_magnitude x⟩
      rw [(hlast negative finite : _ = _), Option.isSome_some]

/-- A number that some text is read as. -/
def Number.Legible (n : Number) : Prop := ∃ s rest, readNumber s = some (n, rest)

theorem isDigit_of_mem_digitRun (s : List Char) :
    ∀ c ∈ (Numeral.digitRun s).1, c.isDigit = true :=
  List.all_eq_true.mp List.all_takeWhile

theorem isDigit_of_readFraction {s digits rest : List Char}
    (h : readFraction s = some (digits, rest)) : ∀ c ∈ digits, c.isDigit = true := by
  unfold readFraction at h
  split at h
  · dsimp only at h
    split at h
    · cases h
    · cases h
      exact isDigit_of_mem_digitRun _
  · cases h
    intro c hc
    cases hc

/-- What is read as a numeral can be spelled. -/
theorem exists_spelling_of_readNumeral {s rest : List Char} {numeral : Numeral} {isWhole : Bool}
    (h : readNumeral s = some ((numeral, isWhole), rest)) :
    ∃ negative, ∃ spelling : Spelling, spelling.numeral negative = numeral ∧
      spelling.isWhole = isWhole := by
  unfold readNumeral at h
  dsimp only at h
  split at h
  · cases h
  · rename_i hlead
    simp only [Option.bind_eq_bind, Option.bind_eq_some_iff] at h
    obtain ⟨⟨fraction, r1⟩, hfraction, ⟨power, r2⟩, -, h⟩ := h
    cases h
    rw [not_or, not_and, not_not] at hlead
    exact ⟨(readMinus s).1, ⟨_, fraction, power, isDigit_of_mem_digitRun _,
      isDigit_of_readFraction hfraction, hlead.1, hlead.2⟩, rfl, rfl⟩

theorem head_spelling (negative : Bool) (spelling : Spelling) :
    ∃ c tail, signText negative ++ spelling.toChars = c :: tail ∧
      (c = '-' ∨ c.isDigit = true) := by
  obtain ⟨c, tail, hwhole⟩ := List.exists_cons_of_ne_nil spelling.present
  cases negative with
  | true => exact ⟨'-', spelling.toChars, rfl, Or.inl rfl⟩
  | false =>
    refine ⟨c, tail ++ fractionText spelling.fraction ++ powerText spelling.power, ?_, Or.inr ?_⟩
    · rw [Spelling.toChars, hwhole]
      simp [signText]
    · exact spelling.wholeDigits c (hwhole ▸ List.mem_cons_self)

/-- A legible number has a text that is read as it wherever it stands. -/
theorem Number.Legible.exists_text {n : Number} (h : n.Legible) :
    ∃ c tail, (c = '-' ∨ c.isDigit = true) ∧
      ∀ rest, EndsNumber rest → readNumber (c :: tail ++ rest) = some (n, rest) := by
  obtain ⟨s, left, hread⟩ := h
  simp only [readNumber, Option.bind_eq_bind, Option.bind_eq_some_iff] at hread
  obtain ⟨⟨⟨numeral, isWhole⟩, r⟩, hnumeral, number, hnumber, hread⟩ := hread
  cases hread
  obtain ⟨negative, spelling, rfl, rfl⟩ := exists_spelling_of_readNumeral hnumeral
  obtain ⟨c, tail, htext, hc⟩ := head_spelling negative spelling
  refine ⟨c, tail, hc, fun rest hrest => ?_⟩
  rw [← htext, List.append_assoc, readNumber_spelling negative spelling hrest]
  simp only [hnumber, Option.map_some]

theorem head_toChars (n : Number) :
    ∃ c tail, n.toChars = c :: tail ∧ (c = '-' ∨ c.isDigit = true) := by
  obtain ⟨negative, spelling, htext, -⟩ := exists_spelling_of_number n
  rw [htext]
  exact head_spelling negative spelling

end ShippingRules.Json
