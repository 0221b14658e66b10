import ShippingRules.Number.Scaled
import ShippingRules.Proofs.Number.ShortestDigits

/-!
When scaling finds the nearest double. A significand below 2^53 is a double, and so are the powers
of ten up to 10^22. Between two such numbers the product or the quotient is the only rounding, and
it is the rounding of the numeral itself.
-/
namespace ShippingRules

namespace Double

/-- A whole number below 2^53 is the value of a finite double. -/
theorem exists_units_eq {c : Nat} (h : c < 2 ^ 53) :
    ∃ bits, bits < infinityBits ∧ units bits = c * Nat.pow 2 1074 := by
  by_cases hzero : c = 0
  · exact ⟨0, by decide, by simp only [hzero, units, coefficient, Nat.zero_sub, Nat.zero_mul]⟩
  have hlog : c.log2 ≤ 52 := by
    have := (Nat.log2_lt hzero).mpr h
    omega
  obtain ⟨hlow, hhigh⟩ := (Nat.log2_eq_iff hzero).mp rfl
  have hup : 2 ^ 52 ≤ c * 2 ^ (52 - c.log2) := by
    calc
      2 ^ 52 = 2 ^ c.log2 * 2 ^ (52 - c.log2) := by rw [← Nat.pow_add]; congr 1; omega
      _ ≤ c * 2 ^ (52 - c.log2) := Nat.mul_le_mul_right _ hlow
  have hdown : c * 2 ^ (52 - c.log2) < 2 ^ 53 := by
    calc
      c * 2 ^ (52 - c.log2) < 2 ^ (c.log2 + 1) * 2 ^ (52 - c.log2) :=
        Nat.mul_lt_mul_of_pos_right hhigh (Nat.two_pow_pos _)
      _ = 2 ^ 53 := by rw [← Nat.pow_add]; congr 1; omega
  generalize hm : c * 2 ^ (52 - c.log2) = m at hup hdown
  -- The significand is moved up to 53 bits, and the scale takes the move back.
  have hscale : scale (m + (1022 + c.log2) * 2 ^ 52) = 1022 + c.log2 := by
    simp only [scale, Nat.pow_eq]
    omega
  refine ⟨m + (1022 + c.log2) * 2 ^ 52, ?_, ?_⟩
  · simp only [infinityBits, Nat.pow_eq]
    omega
  · have hcoefficient : coefficient (m + (1022 + c.log2) * 2 ^ 52) = m := by
      rw [coefficient, hscale, Nat.pow_eq, Nat.add_sub_cancel]
    generalize hk : (1074 : Nat) = k
    have hsum : 52 - c.log2 + (1022 + c.log2) = k := by omega
    rw [units, hscale, hcoefficient, ← hm, Nat.mul_assoc, Nat.pow_eq, Nat.pow_eq, ← Nat.pow_add,
      hsum]

/-- Rounding a whole number below 2^53 keeps it. -/
theorem units_nearestBits_of_lt {c : Nat} (h : c < 2 ^ 53) :
    units (nearestBits c 1) = c * Nat.pow 2 1074 := by
  obtain ⟨bits, hfinite, hunits⟩ := exists_units_eq h
  have hbits := nearestBits_units hfinite
  generalize (1074 : Nat) = k at hunits hbits ⊢
  have hrounded : nearestBits (c * Nat.pow 2 k) (Nat.pow 2 k) = nearestBits c 1 :=
    nearestBits_eq_of_cross_eq (power_pos k) Nat.one_pos (Nat.mul_one _)
  rw [hunits, hrounded] at hbits
  rw [hbits, hunits]

theorem units_tenPowerBits {k : Nat} (h : k ≤ 22) :
    units (tenPowerBits k) = Nat.pow 10 k * Nat.pow 2 1074 := by
  have hpowers : ∀ j, j < 23 → units (tenPowerBits j) = Nat.pow 10 j * Nat.pow 2 1074 := by
    decide +kernel
  exact hpowers k (by omega)

theorem timesBits_of_exact {a b m n : Nat} (ha : units a = m * Nat.pow 2 1074)
    (hb : units b = n * Nat.pow 2 1074) : timesBits a b = nearestBits (m * n) 1 := by
  have htwice : 2148 = 1074 + 1074 := rfl
  rw [timesBits, ha, hb, htwice]
  generalize (1074 : Nat) = k
  have hsplit : Nat.pow 2 (k + k) = Nat.pow 2 k * Nat.pow 2 k := Nat.pow_add 2 k k
  rw [hsplit]
  apply nearestBits_eq_of_cross_eq (Nat.mul_pos (power_pos k) (power_pos k)) Nat.one_pos
  ring

theorem overBits_of_exact {a b m n : Nat} (ha : units a = m * Nat.pow 2 1074)
    (hb : units b = n * Nat.pow 2 1074) (hn : 0 < n) : overBits a b = nearestBits m n := by
  rw [overBits, ha, hb]
  generalize (1074 : Nat) = k
  apply nearestBits_eq_of_cross_eq (Nat.mul_pos hn (power_pos k)) hn
  ring

end Double

/-- A decimal of two exact factors is scaled to the double nearest to it. -/
theorem Decimal.scaledBits_eq_nearestBits {d : Decimal} (hcoefficient : d.coefficient < 2 ^ 53)
    (hexponent : d.exponent.natAbs ≤ 22) : d.scaledBits = d.nearestBits := by
  have hunits := Double.units_nearestBits_of_lt hcoefficient
  have hfits : ¬308 < d.exponent := by omega
  rw [nearestBits_eq_quotient]
  by_cases hneg : 0 ≤ d.exponent
  · have hpower := Double.units_tenPowerBits (k := d.exponent.toNat) (by omega)
    simp only [scaledBits, hfits, if_false, hneg, if_true, quotient]
    exact Double.timesBits_of_exact hunits hpower
  · have hpower := Double.units_tenPowerBits (k := (-d.exponent).toNat) (by omega)
    have hnone : ((-d.exponent).toNat - 1) / 308 = 0 := by omega
    have hplaces : ((-d.exponent).toNat - 1) % 308 + 1 = (-d.exponent).toNat := by omega
    simp only [scaledBits, hfits, if_false, hneg, quotient, hnone, hplaces, Double.shrinkBits]
    exact Double.overBits_of_exact hunits hpower (Nat.pow_pos (by decide))

namespace Numeral

theorem mul_le_ofDigitChars (digits : List Char) (s : Nat) :
    s * 10 ^ digits.length ≤ Nat.ofDigitChars 10 digits s := by
  rw [Nat.ofDigitChars_eq_ofDigitChars_zero, Nat.mul_comm]
  exact Nat.le_add_right _ _

theorem le_ofDigitChars (digits : List Char) (s : Nat) : s ≤ Nat.ofDigitChars 10 digits s :=
  Nat.le_trans (Nat.le_mul_of_pos_right s (Nat.pow_pos (by decide))) (mul_le_ofDigitChars digits s)

/-- Digits that all fit are all taken. -/
theorem takeDigits_of_fits {digits : List Char} {s : Nat}
    (h : Nat.ofDigitChars 10 digits s < 2 ^ 64) :
    takeDigits s digits = (Nat.ofDigitChars 10 digits s, []) := by
  induction digits generalizing s with
  | nil => rfl
  | cons c rest ih =>
    rw [Nat.ofDigitChars_cons] at h ⊢
    have hnext := le_ofDigitChars rest (10 * s + (c.toNat - '0'.toNat))
    have hswap : s * 10 + (c.toNat - '0'.toNat) = 10 * s + (c.toNat - '0'.toNat) := by omega
    simp only [takeDigits, hswap]
    rw [if_pos (by omega)]
    exact ih h

/-- A numeral that fits is taken as it is. -/
theorem taken_eq_decimal {n : Numeral} (h : n.decimal.coefficient < 2 ^ 64) :
    n.taken = n.decimal := by
  rw [decimal, Nat.ofDigitChars_append] at h
  have hfront := le_ofDigitChars n.fraction (Nat.ofDigitChars 10 n.whole 0)
  have hwhole : takeDigits 0 n.whole = (Nat.ofDigitChars 10 n.whole 0, []) :=
    takeDigits_of_fits (Nat.lt_of_le_of_lt hfront h)
  rw [taken, hwhole]
  simp only [takeDigits_of_fits h, decimal, Nat.ofDigitChars_append, List.length_nil,
    Decimal.mk.injEq, true_and]
  omega

/-- A numeral of at most 2^53 units and within 22 places of the point is read as the double
nearest to it. -/
theorem scaled_eq_toDouble {n : Numeral} (hcoefficient : n.decimal.coefficient < 2 ^ 53)
    (hexponent : n.decimal.exponent.natAbs ≤ 22) : n.scaled = n.toDouble := by
  rw [scaled, toDouble, Decimal.toDouble,
    taken_eq_decimal (Nat.lt_trans hcoefficient (by decide)),
    Decimal.scaledBits_eq_nearestBits hcoefficient hexponent]

end Numeral

end ShippingRules
