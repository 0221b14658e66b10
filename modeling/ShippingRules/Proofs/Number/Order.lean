import ShippingRules.Proofs.Number.Comparison
import ShippingRules.Proofs.Number.Rounding

/-!
The order of doubles. A double that is not NaN has a rank, the count of doubles from zero to it with
its sign, and such doubles compare as their ranks do. The double nearest to a whole number has the
sign of that number.
-/
namespace ShippingRules.Double

open Float.Model (Format UnpackedFloat)
open Float.Model.UnpackedFloat (Sign)

/-- The place of a double among all, with both zeros at 0: its magnitude, with its sign. -/
def rank (x : Double) : Int := if x.isNegative then -(x.magnitude : Int) else x.magnitude

/-- What unpacking makes of a double that is not NaN. -/
def Unpacks (x : Double) : UnpackedFloat → Prop
  | .notANumber => False
  | .infinity s => x.rank = s.apply infinityBits
  | .zero _ => x.rank = 0
  | .finite s mantissa exponent _ =>
    ∃ bits : Nat, 0 < bits ∧ bits < infinityBits ∧ x.rank = s.apply bits ∧
      mantissa = coefficient bits ∧ exponent = (scale bits : Int) - 1074

theorem exponent_toNat (x : Double) :
    (@UnpackedFloat.unpackExponent .binary64 x.bits.toBitVec).toNat =
      x.magnitude / 2 ^ 52 := by
  rw [UnpackedFloat.unpackExponent_def, BitVec.extractLsb'_toNat, Nat.shiftRight_eq_div_pow]
  have hmagnitude : x.magnitude = x.bits.toNat % 2 ^ 63 := rfl
  have hfield : x.bits.toNat / 2 ^ 52 % 2 ^ 11 = x.bits.toNat % 2 ^ 63 / 2 ^ 52 := by omega
  rw [hmagnitude, ← hfield]
  rfl

theorem mantissa_toNat (x : Double) :
    (@UnpackedFloat.unpackMantissa .binary64 x.bits.toBitVec).toNat =
      x.magnitude % 2 ^ 52 := by
  rw [UnpackedFloat.unpackMantissa_def, BitVec.extractLsb'_toNat, Nat.shiftRight_zero]
  have hmagnitude : x.magnitude = x.bits.toNat % 2 ^ 63 := rfl
  have hfield : x.bits.toNat % 2 ^ 52 = x.bits.toNat % 2 ^ 63 % 2 ^ 52 := by omega
  rw [hmagnitude, ← hfield]
  rfl

theorem rank_eq_apply (x : Double) :
    x.rank = (Sign.ofBitVec (@UnpackedFloat.unpackSign .binary64 x.bits.toBitVec)).apply
      x.magnitude := by
  have hlt := x.bits.toNat_lt
  have hbit : (@UnpackedFloat.unpackSign .binary64 x.bits.toBitVec).toNat =
      x.bits.toNat / 2 ^ 63 := by
    rw [UnpackedFloat.unpackSign_def, BitVec.extractLsb'_toNat, Nat.shiftRight_eq_div_pow]
    have hfield : x.bits.toNat / 2 ^ 63 % 2 ^ 1 = x.bits.toNat / 2 ^ 63 := by omega
    rw [← hfield]
    rfl
  have hpositive : @UnpackedFloat.unpackSign .binary64 x.bits.toBitVec = 0#1 ↔
      ¬2 ^ 63 ≤ x.bits.toNat := by
    rw [← BitVec.toNat_inj, hbit, BitVec.toNat_ofNat]
    omega
  have hnegative : x.isNegative = decide (2 ^ 63 ≤ x.bits.toNat) := rfl
  rw [rank, Sign.ofBitVec, hnegative]
  by_cases hsign : 2 ^ 63 ≤ x.bits.toNat
  · rw [decide_eq_true hsign, if_pos rfl, if_neg (mt hpositive.mp (not_not_intro hsign))]
    rfl
  · rw [decide_eq_false hsign, if_neg Bool.false_ne_true, if_pos (hpositive.mpr hsign)]
    rfl

theorem exponent_eq_ones_iff (x : Double) :
    @UnpackedFloat.unpackExponent .binary64 x.bits.toBitVec = -1#_ ↔
      x.magnitude / 2 ^ 52 = 2047 := by
  rw [← BitVec.toNat_inj, exponent_toNat]
  rfl

theorem exponent_eq_zero_iff (x : Double) :
    @UnpackedFloat.unpackExponent .binary64 x.bits.toBitVec = 0#_ ↔
      x.magnitude / 2 ^ 52 = 0 := by
  rw [← BitVec.toNat_inj, exponent_toNat]
  rfl

theorem mantissa_eq_zero_iff (x : Double) :
    @UnpackedFloat.unpackMantissa .binary64 x.bits.toBitVec = 0#_ ↔
      x.magnitude % 2 ^ 52 = 0 := by
  rw [← BitVec.toNat_inj, mantissa_toNat]
  rfl

theorem toNat_leadingOne (mantissa : BitVec Format.binary64.mantissaBitsWithoutImplicit) :
    (1#1 ++ mantissa).toNat = 2 ^ 52 + mantissa.toNat := by
  have hor : 2 ^ 52 * 1 + mantissa.toNat = 2 ^ 52 * 1 ||| mantissa.toNat :=
    Nat.two_pow_add_eq_or_of_lt mantissa.isLt 1
  rw [BitVec.toNat_append, ← Nat.mul_one (2 ^ 52), hor]
  rfl

theorem unpacks_unpack {x : Double} (h : x.isNaN = false) :
    x.Unpacks (UnpackedFloat.unpack .binary64 x.bits.toBitVec) := by
  have hnan : x.magnitude ≤ 2047 * 2 ^ 52 := Nat.not_lt.mp (of_decide_eq_false h)
  have hrank := rank_eq_apply x
  have hones := exponent_eq_ones_iff x
  have hzero := exponent_eq_zero_iff x
  have hmantissa := mantissa_eq_zero_iff x
  fun_cases UnpackedFloat.unpack .binary64 x.bits.toBitVec with
  | case1 mantissa exponent bit sign hexponent hempty =>
    have hhigh := hones.mp hexponent
    have hnone := hmantissa.mp hempty
    have hinfinite : x.magnitude = infinityBits := by
      change x.magnitude = 2047 * 2 ^ 52
      omega
    rwa [hinfinite] at hrank
  | case2 mantissa exponent hexponent hempty =>
    have hhigh := hones.mp hexponent
    have hsome := mt hmantissa.mpr hempty
    omega
  | case3 mantissa exponent bit sign hbounded hexponent hempty =>
    have hlow := hzero.mp hexponent
    have hnone := hmantissa.mp hempty
    have hmagnitude : x.magnitude = 0 := by omega
    have hsigns : ∀ s : Sign, s.apply ((0 : Nat) : Int) = 0 := by
      intro s
      cases s <;> rfl
    rw [hmagnitude, hsigns] at hrank
    exact hrank
  | case4 mantissa exponent value bit sign hbounded hexponent hempty =>
    have hlow := hzero.mp hexponent
    have hsome := mt hmantissa.mpr hempty
    refine ⟨x.magnitude, by omega, ?_, hrank, ?_, ?_⟩
    · change _ < 2047 * 2 ^ 52
      omega
    · have hfield : mantissa.toNat = x.magnitude % 2 ^ 52 := mantissa_toNat x
      change mantissa.toNat = x.magnitude - (x.magnitude / 2 ^ 52 - 1) * 2 ^ 52
      omega
    · have hfield : exponent.toNat = x.magnitude / 2 ^ 52 := exponent_toNat x
      change (exponent.toNat : Int) - 1075 + 1 = ((x.magnitude / 2 ^ 52 - 1 : Nat) : Int) - 1074
      omega
  | case5 mantissa exponent value bit sign hbounded hexponent =>
    have hhigh := mt hones.mpr hbounded
    have hsome := mt hzero.mpr hexponent
    refine ⟨x.magnitude, by omega, ?_, hrank, ?_, ?_⟩
    · change _ < 2047 * 2 ^ 52
      omega
    · have hfield : mantissa.toNat = x.magnitude % 2 ^ 52 := mantissa_toNat x
      rw [toNat_leadingOne, hfield]
      change _ = x.magnitude - (x.magnitude / 2 ^ 52 - 1) * 2 ^ 52
      omega
    · have hfield : exponent.toNat = x.magnitude / 2 ^ 52 := exponent_toNat x
      change (exponent.toNat : Int) - 1075 = ((x.magnitude / 2 ^ 52 - 1 : Nat) : Int) - 1074
      omega

theorem scale_eq (bits : Nat) : scale bits = bits / 2 ^ 52 - 1 := by
  rw [scale, Nat.pow_eq]

theorem coefficient_eq (bits : Nat) : coefficient bits = bits - (bits / 2 ^ 52 - 1) * 2 ^ 52 := by
  rw [coefficient, scale_eq, Nat.pow_eq]

/-- Of two magnitudes the scales decide, and then the coefficients. -/
theorem compare_scale_coefficient (a b : Nat) :
    (compare ((scale a : Int) - 1074) ((scale b : Int) - 1074)).then
      (compare (coefficient a) (coefficient b)) = compare (a : Int) b := by
  have hscales : ∀ m n : Nat, compare ((m : Int) - 1074) ((n : Int) - 1074) = compare m n := by
    intro m n
    rcases Nat.lt_trichotomy m n with hlt | rfl | hgt
    · rw [compare_lt_iff_lt.mpr hlt, compare_lt_iff_lt.mpr (by omega)]
    · rw [compare_eq_iff_eq.mpr rfl, compare_eq_iff_eq.mpr rfl]
    · rw [compare_gt_iff_gt.mpr hgt, compare_gt_iff_gt.mpr (by omega)]
  rw [hscales, scale_eq, scale_eq, coefficient_eq, coefficient_eq]
  rcases Nat.lt_trichotomy (a / 2 ^ 52 - 1) (b / 2 ^ 52 - 1) with hlt | heq | hgt
  · rw [compare_lt_iff_lt.mpr hlt, compare_lt_iff_lt.mpr (show (a : Int) < b by omega),
      Ordering.lt_then]
  · rw [compare_eq_iff_eq.mpr heq, Ordering.eq_then]
    rcases Nat.lt_trichotomy a b with hlt | rfl | hgt
    · rw [compare_lt_iff_lt.mpr (Int.ofNat_lt.mpr hlt), compare_lt_iff_lt.mpr (by omega)]
    · rw [compare_eq_iff_eq.mpr rfl, compare_eq_iff_eq.mpr rfl]
    · rw [compare_gt_iff_gt.mpr (Int.ofNat_lt.mpr hgt), compare_gt_iff_gt.mpr (by omega)]
  · rw [compare_gt_iff_gt.mpr hgt, compare_gt_iff_gt.mpr (show (b : Int) < a by omega),
      Ordering.gt_then]

theorem swap_compare_natCast (m n : Nat) :
    (compare (m : Int) n).swap = compare (-(m : Int)) (-(n : Int)) := by
  rcases Nat.lt_trichotomy m n with hlt | rfl | hgt
  · rw [compare_lt_iff_lt.mpr (Int.ofNat_lt.mpr hlt), compare_gt_iff_gt.mpr (by omega)]
    rfl
  · rw [compare_eq_iff_eq.mpr rfl, compare_eq_iff_eq.mpr rfl]
    rfl
  · rw [compare_gt_iff_gt.mpr (Int.ofNat_lt.mpr hgt), compare_lt_iff_lt.mpr (by omega)]
    rfl

section Unpacks

variable {x y : Double} {a b : UnpackedFloat} {mantissa : Nat} {exponent : Int}
  {hmantissa : 0 < mantissa}

theorem Unpacks.rank_pos (h : x.Unpacks (.finite .positive mantissa exponent hmantissa)) :
    0 < x.rank ∧ x.rank < infinityBits := by
  obtain ⟨bits, hlow, hhigh, hrank, -, -⟩ := h
  have hsign : x.rank = bits := hrank
  omega

theorem Unpacks.rank_neg (h : x.Unpacks (.finite .negative mantissa exponent hmantissa)) :
    -(infinityBits : Int) < x.rank ∧ x.rank < 0 := by
  obtain ⟨bits, hlow, hhigh, hrank, -, -⟩ := h
  have hsign : x.rank = -bits := hrank
  omega

theorem Unpacks.rank_bounded (h : x.Unpacks a) (hfinite : ∀ s, a ≠ .infinity s) :
    -(infinityBits : Int) < x.rank ∧ x.rank < infinityBits := by
  have hpos : 0 < infinityBits := by decide
  cases a with
  | notANumber => exact h.elim
  | infinity s => exact absurd rfl (hfinite s)
  | zero s =>
    have hrank : x.rank = 0 := h
    omega
  | finite s mantissa exponent hmantissa =>
    cases s with
    | positive =>
      have hrank := h.rank_pos
      omega
    | negative =>
      have hrank := h.rank_neg
      omega

/-- Unpacked doubles compare as their ranks do. -/
theorem compare_of_unpacks (hx : x.Unpacks a) (hy : y.Unpacks b) :
    a.compare b = some (compare x.rank y.rank) := by
  have hinf : 0 < (infinityBits : Int) := by decide
  fun_cases UnpackedFloat.compare a b with
  | case1 => exact hx.elim
  | case2 => exact hy.elim
  | case3 s t =>
    have hleft : x.rank = s.apply infinityBits := hx
    have hright : y.rank = t.apply infinityBits := hy
    rw [hleft, hright]
    cases s <;> cases t <;> rfl
  | case4 _ hnan hfinite =>
    have hleft : x.rank = infinityBits := hx
    have hright := hy.rank_bounded hfinite
    rw [compare_gt_iff_gt.mpr (by omega)]
  | case5 _ hnan hfinite =>
    have hleft : x.rank = -infinityBits := hx
    have hright := hy.rank_bounded hfinite
    rw [compare_lt_iff_lt.mpr (by omega)]
  | case6 _ hnan hfinite =>
    have hleft := hx.rank_bounded hfinite
    have hright : y.rank = infinityBits := hy
    rw [compare_lt_iff_lt.mpr (by omega)]
  | case7 _ hnan hfinite =>
    have hleft := hx.rank_bounded hfinite
    have hright : y.rank = -infinityBits := hy
    rw [compare_gt_iff_gt.mpr (by omega)]
  | case8 =>
    have hright : y.rank = 0 := hy
    rw [hright, compare_gt_iff_gt.mpr hx.rank_pos.1]
  | case9 =>
    have hright : y.rank = 0 := hy
    rw [hright, compare_lt_iff_lt.mpr hx.rank_neg.2]
  | case10 =>
    have hleft : x.rank = 0 := hx
    rw [hleft, compare_lt_iff_lt.mpr hy.rank_pos.1]
  | case11 =>
    have hleft : x.rank = 0 := hx
    rw [hleft, compare_gt_iff_gt.mpr hy.rank_neg.2]
  | case12 =>
    have hleft : x.rank = 0 := hx
    have hright : y.rank = 0 := hy
    rw [hleft, hright]
    rfl
  | case13 =>
    obtain ⟨m, -, -, hleft, rfl, rfl⟩ := hx
    obtain ⟨n, -, -, hright, rfl, rfl⟩ := hy
    rw [hleft, hright, compare_scale_coefficient]
    exact congrArg some (swap_compare_natCast m n)
  | case14 => rw [compare_lt_iff_lt.mpr (Int.lt_trans hx.rank_neg.2 hy.rank_pos.1)]
  | case15 => rw [compare_gt_iff_gt.mpr (Int.lt_trans hy.rank_neg.2 hx.rank_pos.1)]
  | case16 =>
    obtain ⟨m, -, -, hleft, rfl, rfl⟩ := hx
    obtain ⟨n, -, -, hright, rfl, rfl⟩ := hy
    rw [hleft, hright, compare_scale_coefficient]
    rfl

end Unpacks

theorem unpacks_toFloat {x : Double} (h : x.isNaN = false) :
    x.Unpacks x.toFloat.toModel.unpack := by
  have hbits : x.toFloat.toModel.toBits = x.bits := (toBits_toFloat x).trans (by rw [h]; rfl)
  rw [Float.Model.unpack, hbits]
  exact unpacks_unpack h

section Order

variable {x y : Double}

theorem compare_toFloat (hx : x.isNaN = false) (hy : y.isNaN = false) :
    x.toFloat.toModel.unpack.compare y.toFloat.toModel.unpack = some (compare x.rank y.rank) :=
  compare_of_unpacks (unpacks_toFloat hx) (unpacks_toFloat hy)

theorem toFloat_beq_iff (hx : x.isNaN = false) (hy : y.isNaN = false) :
    (x.toFloat == y.toFloat) = true ↔ x.rank = y.rank := by
  have hbeq : (x.toFloat == y.toFloat) =
      (x.toFloat.toModel.unpack.compare y.toFloat.toModel.unpack == some .eq) := rfl
  rw [hbeq, compare_toFloat hx hy, beq_iff_eq, Option.some_inj, compare_eq_iff_eq]

theorem toFloat_le_iff (hx : x.isNaN = false) (hy : y.isNaN = false) :
    x.toFloat ≤ y.toFloat ↔ x.rank ≤ y.rank := by
  have hle : x.toFloat ≤ y.toFloat ↔
      (x.toFloat.toModel.unpack.compare y.toFloat.toModel.unpack).any Ordering.isLE = true :=
    decide_eq_true_iff
  rw [hle, compare_toFloat hx hy, Option.any_some, ← Ordering.ne_gt_iff_isLE, ← ne_eq,
    compare_le_iff_le]

end Order

section WholeNumbers

/-- Positive whole numbers are not rounded to zero. -/
theorem nearestBits_pos {n : Nat} (h : 0 < n) : 0 < nearestBits n 1 := by
  have hlog := log2_mul_pow (Nat.ne_of_gt h) 1074
  simp only [nearestBits, Nat.div_one, Nat.one_mul]
  generalize hk : (1074 : Nat) = k at hlog ⊢
  generalize n * Nat.pow 2 k = scaled at hlog ⊢
  have hshift : 1 * Nat.pow 2 52 ≤ (scaled.log2 - 52) * Nat.pow 2 52 :=
    Nat.mul_le_mul_right _ (by omega)
  have hunit := power_pos 52
  exact Nat.lt_min.mpr ⟨by omega, by decide⟩

theorem isNegative_ofMagnitude (negative : Bool) {bits : Nat} (h : bits < 2 ^ 63) :
    (ofMagnitude negative bits).isNegative = negative := by
  simp only [ofMagnitude, isNegative, Nat.pow_eq, UInt64.toNat_ofNat']
  cases negative with
  | true => exact decide_eq_true (by rw [if_pos rfl]; omega)
  | false => exact decide_eq_false (by rw [if_neg Bool.false_ne_true]; omega)

theorem ofInt_zero : ofInt 0 = zero := by
  rw [ofInt, nearest, Int.natAbs_zero, nearestBits_zero]
  rfl

theorem isNaN_zero : zero.isNaN = false := by decide

theorem isNaN_ofInt {n : Int} (h : n.natAbs < 2 ^ 64) : (ofInt n).isNaN = false :=
  isNaN_of_isFinite (isFinite_ofInt h)

theorem rank_zero : zero.rank = 0 := by decide

theorem rank_ofInt {n : Int} (h : n.natAbs < 2 ^ 64) :
    (ofInt n).rank = if n < 0 then -(nearestBits n.natAbs 1 : Int) else nearestBits n.natAbs 1 := by
  have hfinite := nearestBits_lt_infinity h
  have hinf : infinityBits < 2 ^ 63 := by decide
  have hbits := Nat.lt_trans hfinite hinf
  rw [ofInt, nearest, rank, isNegative_ofMagnitude _ hbits, magnitude_ofMagnitude _ hbits]
  simp only [decide_eq_true_iff]

theorem rank_ofInt_pos {n : Int} (h : n.natAbs < 2 ^ 64) (hpos : 0 < n) : 0 < (ofInt n).rank := by
  have hbits := nearestBits_pos (show 0 < n.natAbs by omega)
  rw [rank_ofInt h, if_neg (by omega)]
  omega

theorem rank_ofInt_neg {n : Int} (h : n.natAbs < 2 ^ 64) (hneg : n < 0) : (ofInt n).rank < 0 := by
  have hbits := nearestBits_pos (show 0 < n.natAbs by omega)
  rw [rank_ofInt h, if_pos hneg]
  omega

end WholeNumbers

end ShippingRules.Double
