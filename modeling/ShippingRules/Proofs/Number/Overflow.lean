import ShippingRules.Proofs.Number.Scaled

/-!
When scaling overflows. Smaller factors give smaller products, and for each power of ten the largest
significand that keeps the numeral below the largest finite double has a finite product. A quotient
is finite wherever the significand is. What is taken of a numeral, with its places, is at most the
numeral, so a numeral that is nearest to a smaller double than the largest is read as a finite one.
-/
namespace ShippingRules

namespace Double

theorem timesBits_mono {a a' b b' : Nat} (ha : a ≤ a') (hfinite : a' < infinityBits) (hb : b ≤ b')
    (hfinite' : b' < infinityBits) : timesBits a b ≤ timesBits a' b' :=
  nearestBits_mono _ (Nat.mul_le_mul (units_le_units ha hfinite) (units_le_units hb hfinite'))

/-- Dividing by one or more makes no double larger. -/
theorem overBits_le {bits divisor : Nat} (h : bits < infinityBits)
    (hdivisor : Nat.pow 2 1074 ≤ units divisor) : overBits bits divisor ≤ bits := by
  have hunits := nearestBits_units h
  rw [overBits]
  generalize (1074 : Nat) = k at hdivisor hunits
  calc
    nearestBits (units bits) (units divisor) ≤ nearestBits (units bits) (Nat.pow 2 k) :=
      nearestBits_le_of_cross_le (Nat.lt_of_lt_of_le (power_pos k) hdivisor) (power_pos k)
        (Nat.mul_le_mul_left _ hdivisor)
    _ = bits := hunits

/-- Half way between the two largest finite doubles. -/
def lastMidpoint : Nat := (Nat.pow 2 54 - 3) * Nat.pow 2 970

/-- The last midpoint lies between `10 ^ 308` and `10 ^ 309`, and the next number is rounded to the
largest finite double. -/
theorem lastMidpoint_bounds :
    Nat.pow 10 308 ≤ lastMidpoint ∧ lastMidpoint < Nat.pow 10 309 ∧
      nearestBits (lastMidpoint + 1) 1 + 1 = infinityBits := by
  decide +kernel

theorem tenPower_le_lastMidpoint {k : Nat} (h : k ≤ 308) : Nat.pow 10 k ≤ lastMidpoint := by
  have hlast := lastMidpoint_bounds.1
  generalize (308 : Nat) = last at h hlast
  exact Nat.le_trans (Nat.pow_le_pow_right (by decide) h) hlast

theorem word_mul_le_lastMidpoint {c k : Nat} (hfits : c < 2 ^ 64) (h : 20 + k ≤ 308) :
    c * Nat.pow 10 k ≤ lastMidpoint := by
  have hword : c ≤ Nat.pow 10 20 := Nat.le_trans (Nat.le_of_lt hfits) (by decide)
  calc
    c * Nat.pow 10 k ≤ Nat.pow 10 20 * Nat.pow 10 k := Nat.mul_le_mul_right _ hword
    _ = Nat.pow 10 (20 + k) := (Nat.pow_add 10 20 k).symm
    _ ≤ lastMidpoint := tenPower_le_lastMidpoint h

theorem tenPowerBits_lt_infinity {k : Nat} (h : k ≤ 308) : tenPowerBits k < infinityBits := by
  obtain ⟨-, -, hnext⟩ := lastMidpoint_bounds
  have hplaces : Nat.pow 10 k ≤ lastMidpoint + 1 :=
    Nat.le_add_right_of_le (tenPower_le_lastMidpoint h)
  have hbits : tenPowerBits k ≤ nearestBits (lastMidpoint + 1) 1 := nearestBits_mono 1 hplaces
  omega

theorem one_le_tenPowerBits {k : Nat} (h : k ≤ 308) :
    Nat.pow 2 1074 ≤ units (tenPowerBits k) := by
  have hone := units_tenPowerBits (Nat.zero_le 22)
  generalize Nat.pow 2 1074 = one at hone ⊢
  replace hone : units (tenPowerBits 0) = one := hone.trans (Nat.one_mul one)
  have hunits : units (tenPowerBits 0) ≤ units (tenPowerBits k) :=
    units_le_units (nearestBits_mono 1 (Nat.pow_pos (by decide))) (tenPowerBits_lt_infinity h)
  rwa [hone] at hunits

theorem shrinkBits_le (count : Nat) {bits : Nat} (h : bits < infinityBits) :
    shrinkBits count bits ≤ bits := by
  induction count generalizing bits with
  | zero => exact Nat.le_refl bits
  | succ count ih =>
    have hover := overBits_le h (one_le_tenPowerBits (Nat.le_refl 308))
    simp only [shrinkBits]
    split
    · exact Nat.zero_le bits
    · exact Nat.le_trans (ih (Nat.lt_of_le_of_lt hover h)) hover

/-- The largest word that does not pass the last midpoint with `k` places. -/
def largestWord (k : Nat) : Nat := min (lastMidpoint / Nat.pow 10 k) (Nat.pow 2 64 - 1)

theorem largestWord_lt (k : Nat) : largestWord k < 2 ^ 64 :=
  Nat.lt_of_le_of_lt (Nat.min_le_right _ _) (by decide)

theorem le_largestWord {c k : Nat} (hfits : c < 2 ^ 64) (h : c * Nat.pow 10 k ≤ lastMidpoint) :
    c ≤ largestWord k := by
  have hquotient : c ≤ lastMidpoint / Nat.pow 10 k :=
    (Nat.le_div_iff_mul_le (Nat.pow_pos (by decide))).mpr h
  exact Nat.le_min.mpr ⟨hquotient, by rw [Nat.pow_eq]; omega⟩

theorem timesBits_largestWord_lt : ∀ j, j < 21 →
    timesBits (nearestBits (largestWord (288 + j)) 1) (tenPowerBits (288 + j)) < infinityBits := by
  decide +kernel

/-- Up to the last midpoint, no product with a power of ten overflows. A word reaches it only with
288 places or more. -/
theorem timesBits_tenPowerBits_lt {c k : Nat} (hfits : c < 2 ^ 64) (hk : k ≤ 308)
    (hvalue : c * Nat.pow 10 k ≤ lastMidpoint) :
    timesBits (nearestBits c 1) (tenPowerBits k) < infinityBits := by
  obtain ⟨j, hj, hplaces, hvalue⟩ : ∃ j, j < 21 ∧ k ≤ 288 + j ∧
      c * Nat.pow 10 (288 + j) ≤ lastMidpoint := by
    by_cases hless : k < 288
    · have hplaced := word_mul_le_lastMidpoint (k := 288 + 0) hfits (by decide)
      exact ⟨0, by decide, Nat.le_of_lt hless, hplaced⟩
    · obtain ⟨j, rfl⟩ := Nat.exists_eq_add_of_le (Nat.le_of_not_lt hless)
      exact ⟨j, by omega, Nat.le_refl _, hvalue⟩
  have hfinite := tenPowerBits_lt_infinity (k := 288 + j) (by omega)
  have hpower : tenPowerBits k ≤ tenPowerBits (288 + j) :=
    nearestBits_mono 1 (Nat.pow_le_pow_right (by decide) hplaces)
  have hword : nearestBits c 1 ≤ nearestBits (largestWord (288 + j)) 1 :=
    nearestBits_mono 1 (le_largestWord hfits hvalue)
  have hwordFinite := nearestBits_lt_infinity (largestWord_lt (288 + j))
  calc
    timesBits (nearestBits c 1) (tenPowerBits k) ≤
        timesBits (nearestBits (largestWord (288 + j)) 1) (tenPowerBits (288 + j)) :=
      timesBits_mono hword hwordFinite hpower hfinite
    _ < infinityBits := timesBits_largestWord_lt j hj

end Double

namespace Decimal

/-- Of two decimals with one exponent the larger coefficient is not rounded lower. -/
theorem nearestBits_mono {c c' : Nat} (h : c ≤ c') (e : Int) :
    nearestBits ⟨c, e⟩ ≤ nearestBits ⟨c', e⟩ := by
  rw [nearestBits_eq_quotient, nearestBits_eq_quotient]
  simp only [quotient]
  split
  · exact Double.nearestBits_mono 1 (Nat.mul_le_mul_right _ h)
  · exact Double.nearestBits_mono _ h

theorem le_lastMidpoint {c k : Nat}
    (h : Double.nearestBits (c * Nat.pow 10 k) 1 + 1 < Double.infinityBits) :
    c * Nat.pow 10 k ≤ Double.lastMidpoint := by
  obtain ⟨-, -, habove⟩ := Double.lastMidpoint_bounds
  by_contra hlt
  have hrounded := Double.nearestBits_mono 1 (Nat.succ_le_of_lt (Nat.lt_of_not_le hlt))
  rw [Nat.succ_eq_add_one] at hrounded
  omega

/-- Scaling overflows at the earliest where rounding gives the largest finite double. -/
theorem scaledBits_lt_infinity {d : Decimal} (hfits : d.coefficient < 2 ^ 64)
    (h : d.nearestBits + 1 < Double.infinityBits) : d.scaledBits < Double.infinityBits := by
  have hbits := Double.nearestBits_lt_infinity hfits
  rw [nearestBits_eq_quotient] at h
  simp only [scaledBits]
  split
  · rename_i hlarge
    split
    · decide
    · rename_i hne
      have hnonneg : 0 ≤ d.exponent := by omega
      have hpositive : 0 < d.coefficient := by
        apply Nat.pos_of_ne_zero
        intro hzero
        rw [hzero] at hne
        exact hne Double.nearestBits_zero
      simp only [quotient, hnonneg, if_true] at h
      obtain ⟨-, hlast, -⟩ := Double.lastMidpoint_bounds
      have hplaces : 309 ≤ d.exponent.toNat := by omega
      generalize (309 : Nat) = places at hlast hplaces
      have hle : Nat.pow 10 places ≤ d.coefficient * Nat.pow 10 d.exponent.toNat :=
        Nat.le_trans (Nat.pow_le_pow_right (by decide) hplaces)
          (Nat.le_mul_of_pos_left _ hpositive)
      exact absurd (Nat.le_trans hle (le_lastMidpoint h)) (Nat.not_le_of_lt hlast)
  · rename_i hsmall
    split
    · rename_i hnonneg
      simp only [quotient, hnonneg, if_true] at h
      exact Double.timesBits_tenPowerBits_lt hfits (by omega) (le_lastMidpoint h)
    · have hshrink := Double.shrinkBits_le (((-d.exponent).toNat - 1) / 308) hbits
      have hdivisor := Double.one_le_tenPowerBits (k := ((-d.exponent).toNat - 1) % 308 + 1)
        (by omega)
      have hfinite := Nat.lt_of_le_of_lt hshrink hbits
      exact Nat.lt_of_le_of_lt (Double.overBits_le hfinite hdivisor) hfinite

end Decimal

namespace Numeral

theorem ofDigitChars_mono (digits : List Char) {s t : Nat} (h : s ≤ t) :
    Nat.ofDigitChars 10 digits s ≤ Nat.ofDigitChars 10 digits t := by
  rw [Nat.ofDigitChars_eq_ofDigitChars_zero, @Nat.ofDigitChars_eq_ofDigitChars_zero _ t]
  exact Nat.add_le_add_right (Nat.mul_le_mul_left _ h) _

section Taking

variable {s : Nat}

theorem takeDigits_lt (digits : List Char) (h : s < 2 ^ 64) :
    (takeDigits s digits).1 < 2 ^ 64 := by
  induction digits generalizing s with
  | nil => exact h
  | cons c rest ih =>
    simp only [takeDigits]
    split
    · rename_i hlonger
      exact ih hlonger
    · exact h

/-- With the digits that find no room as zeros, a significand is not above the digits. -/
theorem takeDigits_mul_le (s : Nat) (digits : List Char) :
    (takeDigits s digits).1 * 10 ^ (takeDigits s digits).2.length ≤
      Nat.ofDigitChars 10 digits s := by
  induction digits generalizing s with
  | nil => simp [takeDigits]
  | cons c rest ih =>
    simp only [takeDigits]
    split
    · rw [Nat.ofDigitChars_cons, Nat.mul_comm 10 s]
      exact ih _
    · exact mul_le_ofDigitChars _ s

/-- Where a digit finds no room, the digits reach 2^64 with it. -/
theorem word_mul_le_of_takeDigits {digits : List Char} (h : (takeDigits s digits).2 ≠ []) :
    2 ^ 64 * 10 ^ ((takeDigits s digits).2.length - 1) ≤ Nat.ofDigitChars 10 digits s := by
  induction digits generalizing s with
  | nil => exact absurd rfl h
  | cons c rest ih =>
    simp only [takeDigits] at h ⊢
    split
    · rename_i hlonger
      rw [if_pos hlonger] at h
      rw [Nat.ofDigitChars_cons, Nat.mul_comm 10 s]
      exact ih h
    · rename_i hlonger
      rw [Nat.ofDigitChars_cons, Nat.mul_comm 10 s, List.length_cons, Nat.add_sub_cancel]
      exact Nat.le_trans (Nat.mul_le_mul_right _ (by omega)) (mul_le_ofDigitChars rest _)

theorem takeDigits_eq_or (s : Nat) (digits : List Char) :
    takeDigits s digits = (s, digits) ∨ (takeDigits s digits).2.length < digits.length := by
  induction digits generalizing s with
  | nil => exact Or.inl rfl
  | cons c rest ih =>
    simp only [takeDigits]
    split
    · right
      rcases ih (s * 10 + (c.toNat - '0'.toNat)) with hall | hless
      · simp only [hall, List.length_cons, Nat.lt_succ_self]
      · exact Nat.lt_succ_of_lt hless
    · exact Or.inl rfl

end Taking

theorem coefficient_taken_lt (n : Numeral) : n.taken.coefficient < 2 ^ 64 :=
  takeDigits_lt _ (takeDigits_lt _ (by decide))

/-- With its places, the significand is not above the digits of both sides. A digit may still find
room behind the point when one before it did not: the whole side is then above all that 64 bits
hold. -/
theorem taken_mul_le (n : Numeral) :
    n.taken.coefficient * 10 ^ ((takeDigits 0 n.whole).2.length +
        (takeDigits (takeDigits 0 n.whole).1 n.fraction).2.length) ≤ n.decimal.coefficient := by
  have hfits : n.taken.coefficient < 2 ^ 64 := coefficient_taken_lt n
  have hcoefficient : n.taken.coefficient =
      (takeDigits (takeDigits 0 n.whole).1 n.fraction).1 := rfl
  have hwhole := takeDigits_mul_le 0 n.whole
  have hroom : (takeDigits 0 n.whole).2 ≠ [] → _ := word_mul_le_of_takeDigits
  rw [decimal, Nat.ofDigitChars_append]
  generalize Nat.ofDigitChars 10 n.whole 0 = front at *
  generalize takeDigits 0 n.whole = taking at *
  obtain ⟨significand, left⟩ := taking
  dsimp only at *
  have hfraction := takeDigits_mul_le significand n.fraction
  have hpart := takeDigits_eq_or significand n.fraction
  have hall := mul_le_ofDigitChars n.fraction front
  generalize takeDigits significand n.fraction = taking at *
  obtain ⟨last, ignored⟩ := taking
  dsimp only at *
  rw [hcoefficient] at hfits ⊢
  cases left with
  | nil =>
    rw [List.length_nil, Nat.pow_zero, Nat.mul_one] at hwhole
    rw [List.length_nil, Nat.zero_add]
    exact Nat.le_trans hfraction (ofDigitChars_mono _ hwhole)
  | cons c rest =>
    have hword := hroom (List.cons_ne_nil c rest)
    rw [List.length_cons, Nat.add_sub_cancel] at hword
    refine Nat.le_trans ?_ hall
    rcases hpart with hnone | hless
    · cases hnone
      rw [Nat.pow_add, ← Nat.mul_assoc]
      exact Nat.mul_le_mul_right _ hwhole
    · calc
        last * 10 ^ ((c :: rest).length + ignored.length) =
            last * 10 ^ rest.length * 10 ^ (ignored.length + 1) := by
          rw [Nat.mul_assoc, ← Nat.pow_add, List.length_cons]
          congr 2
          omega
        _ ≤ 2 ^ 64 * 10 ^ rest.length * 10 ^ n.fraction.length :=
          Nat.mul_le_mul (Nat.mul_le_mul_right _ (Nat.le_of_lt hfits))
            (Nat.pow_le_pow_right (by decide) hless)
        _ ≤ front * 10 ^ n.fraction.length := Nat.mul_le_mul_right _ hword

/-- What is taken of a numeral is not rounded above the numeral. -/
theorem nearestBits_taken_le (n : Numeral) : n.taken.nearestBits ≤ n.decimal.nearestBits := by
  have hle := taken_mul_le n
  generalize hplaces : (takeDigits 0 n.whole).2.length +
    (takeDigits (takeDigits 0 n.whole).1 n.fraction).2.length = places at hle
  have hexponent : n.taken.exponent = n.decimal.exponent + places := by
    simp only [taken, decimal, ← hplaces]
    omega
  calc
    n.taken.nearestBits = Decimal.nearestBits ⟨n.taken.coefficient, n.decimal.exponent + places⟩ :=
      by rw [← hexponent]
    _ = Decimal.nearestBits ⟨n.taken.coefficient * Nat.pow 10 places, n.decimal.exponent⟩ :=
      (Decimal.nearestBits_shift _ _ _).symm
    _ ≤ n.decimal.nearestBits := Decimal.nearestBits_mono hle _

theorem magnitude_toDouble (n : Numeral) : n.toDouble.magnitude = n.decimal.nearestBits := by
  have hword : Double.infinityBits < 2 ^ 63 := by decide
  have hbits : n.decimal.nearestBits < 2 ^ 63 := by
    rw [Decimal.nearestBits_eq_quotient]
    exact Nat.lt_of_le_of_lt (Nat.min_le_right _ _) hword
  exact Double.magnitude_ofMagnitude _ hbits

/-- A numeral that is nearest to a smaller double than the largest is not read as infinity. -/
theorem isFinite_scaled {n : Numeral} (h : n.decimal.nearestBits + 1 < Double.infinityBits) :
    n.scaled.isFinite = true := by
  have hbits := Decimal.scaledBits_lt_infinity (coefficient_taken_lt n)
    (Nat.lt_of_le_of_lt (Nat.succ_le_succ (nearestBits_taken_le n)) h)
  have hword : Double.infinityBits < 2 ^ 63 := by decide
  rw [scaled, Double.isFinite, Double.magnitude_ofMagnitude _ (Nat.lt_trans hbits hword)]
  exact decide_eq_true hbits

end Numeral

end ShippingRules
