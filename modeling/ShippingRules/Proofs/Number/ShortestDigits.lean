import Mathlib.Tactic.Ring
import ShippingRules.Number.Decimal
import ShippingRules.Proofs.Number.Rounding

/-!
Decimals read as doubles. The tests on the exponent in front of a reading only save work; reading
depends on the value of a decimal and not on the zeros at its end. The shortest decimal of a double
is read as that double, whichever way ties between decimals are resolved.
-/
namespace ShippingRules.Decimal

theorem quotient_den_pos (d : Decimal) : 0 < d.quotient.2 := by
  unfold quotient
  split
  · exact Nat.one_pos
  · exact Nat.pow_pos (by decide)

theorem eight_pow_le_ten_pow (m : Nat) : Nat.pow 2 (3 * m) ≤ Nat.pow 10 m := by
  simp only [Nat.pow_eq, Nat.pow_mul]
  exact Nat.pow_le_pow_left (by decide) m

theorem nearestBits_of_large {d : Decimal} (hne : d.coefficient ≠ 0) (h : 400 < d.exponent) :
    Double.nearestBits d.quotient.1 d.quotient.2 = Double.infinityBits := by
  have hnonneg : 0 ≤ d.exponent := by omega
  simp only [quotient, hnonneg, if_true]
  apply Double.nearestBits_eq_infinity
  have hpow : Nat.pow 2 (3 * d.exponent.toNat) ≤ d.coefficient * Nat.pow 10 d.exponent.toNat :=
    Nat.le_trans (eight_pow_le_ten_pow _) (Nat.le_mul_of_pos_left _ (Nat.pos_of_ne_zero hne))
  have hproduct : d.coefficient * Nat.pow 10 d.exponent.toNat ≠ 0 := by
    have := Double.power_pos (3 * d.exponent.toNat)
    omega
  have hlog := (Nat.le_log2 hproduct).mpr hpow
  omega

theorem nearestBits_of_small {d : Decimal}
    (h : d.exponent < -(400 + d.coefficient.log2 : Int)) :
    Double.nearestBits d.quotient.1 d.quotient.2 = 0 := by
  have hneg : ¬0 ≤ d.exponent := by omega
  simp only [quotient, hneg, if_false]
  apply Double.nearestBits_eq_zero
  generalize hk : (1074 : Nat) = k
  calc
    2 * (d.coefficient * Nat.pow 2 k) < 2 * (Nat.pow 2 (d.coefficient.log2 + 1) * Nat.pow 2 k) := by
      have hlog : d.coefficient < Nat.pow 2 (d.coefficient.log2 + 1) := Nat.lt_log2_self
      have := Nat.mul_lt_mul_of_pos_right hlog (Double.power_pos k)
      omega
    _ = Nat.pow 2 (d.coefficient.log2 + 1 + k + 1) := by
      simp only [Nat.pow_eq]
      ring
    _ ≤ Nat.pow 2 (3 * (-d.exponent).toNat) := Nat.pow_le_pow_right Nat.two_pos (by omega)
    _ ≤ Nat.pow 10 (-d.exponent).toNat := eight_pow_le_ten_pow _

/-- The tests on the exponent do not change the result. -/
theorem nearestBits_eq_quotient (d : Decimal) :
    d.nearestBits = Double.nearestBits d.quotient.1 d.quotient.2 := by
  unfold nearestBits
  split
  · rename_i hzero
    have hnum : d.quotient.1 = 0 := by
      unfold quotient
      split <;> simp [hzero]
    have hpos := quotient_den_pos d
    rw [hnum, Double.nearestBits_eq_zero (by omega)]
  · rename_i hne
    split
    · rename_i hlarge
      exact (nearestBits_of_large hne hlarge).symm
    · split
      · rename_i hsmall
        exact (nearestBits_of_small hsmall).symm
      · rfl

/-- Zeros at the end of the coefficient count as much as in the exponent. -/
theorem nearestBits_shift (c k : Nat) (e : Int) :
    nearestBits ⟨c * Nat.pow 10 k, e⟩ = nearestBits ⟨c, e + k⟩ := by
  rw [nearestBits_eq_quotient, nearestBits_eq_quotient]
  apply Double.nearestBits_eq_of_cross_eq (quotient_den_pos _) (quotient_den_pos _)
  simp only [quotient, Nat.pow_eq]
  by_cases he : 0 ≤ e
  · have hek : 0 ≤ e + k := by omega
    have hsum : (e + k).toNat = k + e.toNat := by omega
    simp only [he, hek, if_true, hsum, Nat.pow_add]
    ring
  · by_cases hek : 0 ≤ e + k
    · have hsum : k = (e + k).toNat + (-e).toNat := by omega
      have hpow : 10 ^ k = 10 ^ (e + k).toNat * 10 ^ (-e).toNat := by rw [← Nat.pow_add, ← hsum]
      simp only [he, hek, if_true, if_false, hpow]
      ring
    · have hsum : (-e).toNat = k + (-(e + k)).toNat := by omega
      simp only [he, hek, if_false, hsum, Nat.pow_add]
      ring

theorem nearestBits_stripZeros (d : Decimal) : d.stripZeros.nearestBits = d.nearestBits := by
  fun_induction stripZeros d with
  | case1 d h ih =>
    have hdiv : d.coefficient / 10 * Nat.pow 10 1 = d.coefficient := by
      simp only [Nat.pow_eq, Nat.pow_one]
      omega
    have hshift := nearestBits_shift (d.coefficient / 10) 1 d.exponent
    rw [hdiv] at hshift
    exact ih.trans hshift.symm
  | case2 => rfl

theorem coefficient_pos {d : Decimal} (h : d.nearestBits ≠ 0) : 0 < d.coefficient := by
  apply Nat.pos_of_ne_zero
  intro hzero
  exact h (if_pos hzero)

/-- Halves are fifths of tens. -/
theorem nearestBits_fifths (n k : Nat) :
    nearestBits ⟨n * Nat.pow 5 k, -(k : Int)⟩ = Double.nearestBits n (Nat.pow 2 k) := by
  rw [nearestBits_eq_quotient]
  apply Double.nearestBits_eq_of_cross_eq (quotient_den_pos _) (Double.power_pos k)
  have hten : 10 ^ k = 5 ^ k * 2 ^ k := (Nat.mul_pow 5 2 k)
  by_cases hk : k = 0
  · simp [quotient, hk]
  · have hneg : ¬0 ≤ -(k : Int) := by omega
    simp only [quotient, hneg, if_false, Int.neg_neg, Int.toNat_natCast, Nat.pow_eq, hten]
    ring

theorem nearestBits_exact {bits : Nat} (h : bits < Double.infinityBits) :
    (Decimal.exact bits).nearestBits = bits := by
  have hunits := Double.nearestBits_units h
  have hcast : (-1074 : Int) = -((1074 : Nat) : Int) := rfl
  rw [Decimal.exact, hcast]
  generalize (1074 : Nat) = k at hunits ⊢
  rw [nearestBits_fifths, hunits]

/-- Either neighbour is offered only after it has been read back. -/
theorem nearestBits_of_neighbour? {tie : Tie} {bits num den : Nat} {position : Int} {d : Decimal}
    (h : neighbour? tie bits position num den = some d) : d.nearestBits = bits := by
  unfold neighbour? at h
  grind

theorem nearestBits_shortest (tie : Tie) {bits : Nat} (h : bits < Double.infinityBits) :
    (shortest tie bits).nearestBits = bits := by
  unfold shortest
  cases hfound : (List.range 17).findSome? fun i => withDigits tie bits (i + 1) with
  | none => exact nearestBits_exact h
  | some d =>
    obtain ⟨i, _, hi⟩ := List.exists_of_findSome?_eq_some hfound
    exact nearestBits_of_neighbour? hi

end ShippingRules.Decimal
