import Mathlib.Tactic.Ring
import ShippingRules.Number.Double

/-!
Rounding of quotients to doubles. The nearest double depends on the quotient alone and not on the
numbers it is written with, and it keeps their order. Every finite double is the nearest one to its
own value, so rounding loses nothing where there is nothing to lose. Bounds on the quotient decide
the extreme results.
-/
namespace ShippingRules.Double

theorem roundHalfEven_mul_left (k num den : Nat) (hk : 0 < k) :
    roundHalfEven (k * num) (k * den) = roundHalfEven num den := by
  have hdiv : k * num / (k * den) = num / den := Nat.mul_div_mul_left num den hk
  have htwice : 2 * (k * num % (k * den)) = k * (2 * (num % den)) := by
    rw [Nat.mul_mod_mul_left]
    ring
  have hlt : k * (2 * (num % den)) < k * den ↔ 2 * (num % den) < den :=
    Nat.mul_lt_mul_left hk
  have heq : k * (2 * (num % den)) = k * den ↔ 2 * (num % den) = den :=
    Nat.mul_right_inj (Nat.ne_of_gt hk)
  simp only [roundHalfEven, hdiv, htwice, hlt, heq]

theorem roundHalfEven_exact (q den : Nat) (hden : 0 < den) :
    roundHalfEven (q * den) den = q := by
  have hmod : q * den % den = 0 := Nat.mul_mod_left q den
  have hdiv : q * den / den = q := Nat.mul_div_cancel q hden
  simp only [roundHalfEven, hmod, hdiv, Nat.mul_zero, hden, true_or, if_true]

theorem roundHalfEven_le (num den : Nat) : roundHalfEven num den ≤ num / den + 1 := by
  simp only [roundHalfEven]
  split <;> omega

theorem le_roundHalfEven (num den : Nat) : num / den ≤ roundHalfEven num den := by
  simp only [roundHalfEven]
  split <;> omega

theorem roundHalfEven_mono {num num' : Nat} (den : Nat) (h : num ≤ num') :
    roundHalfEven num den ≤ roundHalfEven num' den := by
  have hdiv : num / den ≤ num' / den := Nat.div_le_div_right h
  by_cases heq : num / den = num' / den
  · -- Between two whole numbers only the remainder decides.
    have hmod : num % den ≤ num' % den := by
      have hsplit := Nat.div_add_mod num den
      have hsplit' := Nat.div_add_mod num' den
      rw [heq] at hsplit
      omega
    simp only [roundHalfEven, heq]
    split <;> split <;> omega
  · have hround := roundHalfEven_le num den
    have hlow := le_roundHalfEven num' den
    omega

/-- A quotient rounds the same way in every form it can be written in. -/
theorem nearestBits_mul_left (k num den : Nat) (hk : 0 < k) :
    nearestBits (k * num) (k * den) = nearestBits num den := by
  have hscaled : k * num * Nat.pow 2 1074 = k * (num * Nat.pow 2 1074) := Nat.mul_assoc k num _
  have hdiv : k * (num * Nat.pow 2 1074) / (k * den) = num * Nat.pow 2 1074 / den :=
    Nat.mul_div_mul_left _ den hk
  simp only [nearestBits, hscaled, hdiv, Nat.mul_assoc k den, roundHalfEven_mul_left k _ _ hk]

theorem nearestBits_eq_of_cross_eq {num den num' den' : Nat} (hden : 0 < den) (hden' : 0 < den')
    (h : num * den' = num' * den) : nearestBits num den = nearestBits num' den' := by
  calc
    nearestBits num den = nearestBits (den' * num) (den' * den) :=
      (nearestBits_mul_left den' num den hden').symm
    _ = nearestBits (den * num') (den * den') := by
      rw [Nat.mul_comm den' num, Nat.mul_comm den num', h, Nat.mul_comm den' den]
    _ = nearestBits num' den' := nearestBits_mul_left den num' den' hden

/-- The position of the leading bit of a finite double gives back its scale. -/
theorem log2_units_sub (bits : Nat) : (units bits).log2 - 52 = scale bits := by
  by_cases hscale : scale bits = 0
  · have hbits : bits < 2 ^ 53 := by
      simp only [scale, Nat.pow_eq] at hscale
      omega
    have hunits : units bits = bits := by simp [units, coefficient, hscale]
    rw [hunits, hscale]
    by_cases hzero : bits = 0
    · simp [hzero]
    · have := (Nat.log2_lt hzero).mpr hbits
      omega
  · have hlow : 2 ^ 52 ≤ coefficient bits := by
      simp only [coefficient, scale, Nat.pow_eq] at hscale ⊢
      omega
    have hhigh : coefficient bits < 2 ^ 53 := by
      simp only [coefficient, scale, Nat.pow_eq] at hscale ⊢
      omega
    have hpos : 0 < 2 ^ scale bits := Nat.two_pow_pos _
    have hlower : 2 ^ (52 + scale bits) ≤ units bits := by
      rw [units, Nat.pow_eq, Nat.pow_add]
      exact Nat.mul_le_mul_right _ hlow
    have hupper : units bits < 2 ^ (52 + scale bits + 1) := by
      rw [units, Nat.pow_eq, Nat.add_right_comm, Nat.pow_add]
      exact Nat.mul_lt_mul_of_pos_right hhigh hpos
    have hne : units bits ≠ 0 := by
      have := Nat.two_pow_pos (52 + scale bits)
      omega
    have hlog := (Nat.log2_eq_iff hne).mpr ⟨hlower, hupper⟩
    omega

theorem coefficient_add_scale (bits : Nat) :
    coefficient bits + scale bits * Nat.pow 2 52 = bits := by
  simp only [coefficient, scale, Nat.pow_eq]
  omega

theorem power_pos (k : Nat) : 0 < Nat.pow 2 k := Nat.two_pow_pos k

/-- Rounding the value of a double in a finer unit finds its coefficient and its scale. -/
theorem roundHalfEven_units (bits unit : Nat) (hunit : 0 < unit) :
    roundHalfEven (units bits * unit)
        (unit * Nat.pow 2 ((units bits * unit / unit).log2 - 52)) +
      ((units bits * unit / unit).log2 - 52) * Nat.pow 2 52 = bits := by
  have hdiv : units bits * unit / unit = units bits := Nat.mul_div_cancel _ hunit
  have hfactor : units bits * unit = coefficient bits * (unit * Nat.pow 2 (scale bits)) := by
    rw [units]
    ring
  have hround : roundHalfEven (units bits * unit) (unit * Nat.pow 2 (scale bits)) =
      coefficient bits := by
    rw [hfactor]
    exact roundHalfEven_exact _ _ (Nat.mul_pos hunit (power_pos _))
  rw [hdiv, log2_units_sub, hround, coefficient_add_scale]

/-- A finite double is the nearest double to its own value. -/
theorem nearestBits_units {bits : Nat} (h : bits < infinityBits) :
    nearestBits (units bits) (Nat.pow 2 1074) = bits := by
  simp only [nearestBits]
  -- With a variable exponent no step can compute the power.
  generalize (1074 : Nat) = k
  rw [roundHalfEven_units bits _ (power_pos k)]
  exact Nat.min_eq_left (Nat.le_of_lt h)

/-- Quotients below half of the least positive double are rounded to zero. -/
theorem nearestBits_eq_zero {num den : Nat} (h : 2 * (num * Nat.pow 2 1074) < den) :
    nearestBits num den = 0 := by
  simp only [nearestBits]
  generalize num * Nat.pow 2 1074 = scaled at h
  have hdiv : scaled / den = 0 := Nat.div_eq_of_lt (by omega)
  have hmod : scaled % den = scaled := Nat.mod_eq_of_lt (by omega)
  simp [hdiv, roundHalfEven, hmod, h]

theorem nearestBits_zero : nearestBits 0 1 = 0 :=
  nearestBits_eq_zero (by generalize (1074 : Nat) = k; omega)

theorem log2_mul_pow {n : Nat} (hn : n ≠ 0) (k : Nat) : (n * Nat.pow 2 k).log2 = n.log2 + k := by
  have hpos : 0 < 2 ^ k := Nat.two_pow_pos k
  have hne : n * 2 ^ k ≠ 0 := Nat.mul_ne_zero hn (Nat.ne_of_gt hpos)
  rw [Nat.pow_eq, Nat.log2_eq_iff hne, Nat.add_right_comm, Nat.pow_add, Nat.pow_add]
  exact ⟨Nat.mul_le_mul_right _ (Nat.log2_self_le hn),
    Nat.mul_lt_mul_of_pos_right Nat.lt_log2_self hpos⟩

theorem log2_mul_pow_le {n bound : Nat} (h : n < 2 ^ (bound + 1)) (k : Nat) :
    (n * Nat.pow 2 k).log2 ≤ bound + k := by
  by_cases hzero : n = 0
  · simp [hzero]
  · have := (Nat.log2_lt hzero).mpr h
    rw [log2_mul_pow hzero]
    omega

/-- Whole numbers of more than 1025 bits are rounded to infinity. -/
theorem nearestBits_eq_infinity {num : Nat} (h : 1025 ≤ num.log2) :
    nearestBits num 1 = infinityBits := by
  have hne : num ≠ 0 := by
    rintro rfl
    simp at h
  simp only [nearestBits, Nat.div_one, Nat.one_mul, log2_mul_pow hne]
  have hshift : 2047 * Nat.pow 2 52 ≤ (num.log2 + 1074 - 52) * Nat.pow 2 52 :=
    Nat.mul_le_mul_right _ (by omega)
  exact Nat.min_eq_right (Nat.le_trans hshift (Nat.le_add_left _ _))

/-- Shifted down to its 53 leading bits, a number stays below 2^53. -/
theorem shifted_lt (n : Nat) : n / Nat.pow 2 (n.log2 - 52) < 2 ^ 53 := by
  rw [Nat.pow_eq, Nat.div_lt_iff_lt_mul (Nat.two_pow_pos _), ← Nat.pow_add]
  calc
    n < 2 ^ (n.log2 + 1) := Nat.lt_log2_self
    _ ≤ 2 ^ (53 + (n.log2 - 52)) := Nat.pow_le_pow_right Nat.two_pos (by omega)

/-- Shifted down to its 53 leading bits, a longer number keeps the first of them. -/
theorem le_shifted {n : Nat} (h : 53 ≤ n.log2) : 2 ^ 52 ≤ n / Nat.pow 2 (n.log2 - 52) := by
  have hne : n ≠ 0 := by
    rintro rfl
    simp at h
  rw [Nat.pow_eq, Nat.le_div_iff_mul_le (Nat.two_pow_pos _), ← Nat.pow_add]
  calc
    2 ^ (52 + (n.log2 - 52)) = 2 ^ n.log2 := by congr 1; omega
    _ ≤ n := Nat.log2_self_le hne

/-- Rounding keeps the order of the numerators. A carry out of one binade meets the first double of
the next. -/
theorem nearestBits_mono {num num' : Nat} (den : Nat) (h : num ≤ num') :
    nearestBits num den ≤ nearestBits num' den := by
  have hscaled : num * Nat.pow 2 1074 ≤ num' * Nat.pow 2 1074 := Nat.mul_le_mul_right _ h
  simp only [nearestBits]
  generalize num * Nat.pow 2 1074 = n at hscaled ⊢
  generalize num' * Nat.pow 2 1074 = n' at hscaled ⊢
  have hdiv : n / den ≤ n' / den := Nat.div_le_div_right hscaled
  have hlog : (n / den).log2 ≤ (n' / den).log2 := by
    by_cases hzero : n / den = 0
    · simp [hzero]
    · have hpos : n' / den ≠ 0 :=
        Nat.ne_of_gt (Nat.lt_of_lt_of_le (Nat.pos_of_ne_zero hzero) hdiv)
      exact (Nat.le_log2 hpos).mpr (Nat.le_trans (Nat.log2_self_le hzero) hdiv)
  refine min_le_min_right _ ?_
  by_cases heq : (n / den).log2 - 52 = (n' / den).log2 - 52
  · rw [heq]
    exact Nat.add_le_add_right (roundHalfEven_mono _ hscaled) _
  · have hround := roundHalfEven_le n (den * Nat.pow 2 ((n / den).log2 - 52))
    have hhigh := shifted_lt (n / den)
    have hlow := le_shifted (n := n' / den) (by omega)
    have hround' := le_roundHalfEven n' (den * Nat.pow 2 ((n' / den).log2 - 52))
    rw [← Nat.div_div_eq_div_mul] at hround hround'
    have hshift : ((n / den).log2 - 52 + 1) * Nat.pow 2 52 ≤
        ((n' / den).log2 - 52) * Nat.pow 2 52 := Nat.mul_le_mul_right _ (by omega)
    simp only [Nat.pow_eq, Nat.add_mul, Nat.one_mul] at hshift hround hround' hhigh hlow ⊢
    omega

/-- Rounding keeps the order of quotients. -/
theorem nearestBits_le_of_cross_le {num den num' den' : Nat} (hden : 0 < den) (hden' : 0 < den')
    (h : num * den' ≤ num' * den) : nearestBits num den ≤ nearestBits num' den' := by
  calc
    nearestBits num den = nearestBits (num * den') (den * den') :=
      nearestBits_eq_of_cross_eq hden (Nat.mul_pos hden hden') (by ring)
    _ ≤ nearestBits (num' * den) (den * den') := nearestBits_mono _ h
    _ = nearestBits num' den' :=
      nearestBits_eq_of_cross_eq (Nat.mul_pos hden hden') hden' (by ring)

/-- The order of finite doubles is that of their bits. -/
theorem units_le_units {bits bits' : Nat} (h : bits ≤ bits') (hfinite : bits' < infinityBits) :
    units bits ≤ units bits' := by
  by_contra hlt
  have hrounded := nearestBits_mono (Nat.pow 2 1074) (Nat.le_of_lt (Nat.lt_of_not_le hlt))
  rw [nearestBits_units hfinite, nearestBits_units (Nat.lt_of_le_of_lt h hfinite)] at hrounded
  exact hlt (Nat.le_antisymm h hrounded ▸ Nat.le_refl _)

/-- Whole numbers of at most 64 bits are rounded to finite doubles. -/
theorem nearestBits_lt_infinity {num : Nat} (h : num < 2 ^ 64) :
    nearestBits num 1 < infinityBits := by
  simp only [nearestBits, Nat.div_one, Nat.one_mul]
  generalize hk : (1074 : Nat) = k
  have hlog : (num * Nat.pow 2 k).log2 ≤ 63 + k := log2_mul_pow_le h k
  generalize num * Nat.pow 2 k = scaled at hlog ⊢
  have hround := roundHalfEven_le scaled (Nat.pow 2 (scaled.log2 - 52))
  have hquotient := shifted_lt scaled
  have hshift : (scaled.log2 - 52) * Nat.pow 2 52 ≤ 1085 * Nat.pow 2 52 :=
    Nat.mul_le_mul_right _ (by omega)
  refine Nat.lt_of_le_of_lt (Nat.min_le_left _ _) ?_
  simp only [infinityBits, Nat.pow_eq] at hround hquotient hshift ⊢
  omega

/-- A double is its sign and its magnitude. -/
theorem ofMagnitude_magnitude (x : Double) : ofMagnitude x.isNegative x.magnitude = x := by
  obtain ⟨bits⟩ := x
  have hlt := bits.toNat_lt
  simp only [ofMagnitude, magnitude, isNegative, Nat.pow_eq, decide_eq_true_eq, Double.mk.injEq]
  have hsum : bits.toNat % 2 ^ 63 + (if 2 ^ 63 ≤ bits.toNat then 2 ^ 63 else 0) = bits.toNat := by
    split <;> omega
  rw [hsum, UInt64.ofNat_toNat]

theorem magnitude_ofMagnitude (negative : Bool) {bits : Nat} (h : bits < 2 ^ 63) :
    (ofMagnitude negative bits).magnitude = bits := by
  simp only [ofMagnitude, magnitude, Nat.pow_eq, UInt64.toNat_ofNat']
  cases negative <;> simp <;> omega

/-- Whole numbers of at most 64 bits have finite doubles. -/
theorem isFinite_ofInt {n : Int} (h : n.natAbs < 2 ^ 64) : (ofInt n).isFinite = true := by
  have hlt := nearestBits_lt_infinity h
  have hbits : infinityBits < 2 ^ 63 := by decide
  simp only [isFinite, ofInt, nearest, magnitude_ofMagnitude _ (Nat.lt_trans hlt hbits),
    decide_eq_true_eq]
  exact hlt

end ShippingRules.Double
