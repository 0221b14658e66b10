import Mathlib
import ShippingRules.Number.Double

/-!
When two doubles are the same as numbers compare. NaN is the same as nothing; other doubles are the
same if they have the same bits or are both zeros. All patterns of NaN are one float, and no other
two patterns are.

No single module of Mathlib imports the library's lemmas on the bits of floats, `Float.toBits_inj`
and the like, so all of it is imported.
-/
namespace ShippingRules.Double

open Float.Model (Format UnpackedFloat)

theorem isNaN_iff (x : Double) :
    x.isNaN = true ↔ x.bits.toNat / 2 ^ 52 % 2 ^ 11 = 2047 ∧ x.bits.toNat % 2 ^ 52 ≠ 0 := by
  have hnan : x.isNaN = true ↔ 2047 * 2 ^ 52 < x.bits.toNat % 2 ^ 63 := decide_eq_true_iff
  rw [hnan]
  omega

theorem isNaNBits_eq (x : Double) :
    @UnpackedFloat.isNaNBits .binary64 x.bits.toBitVec = x.isNaN := by
  rw [Bool.eq_iff_iff, isNaN_iff, UnpackedFloat.isNaNBits, decide_eq_true_iff,
    UnpackedFloat.unpackExponent_def, UnpackedFloat.unpackMantissa_def]
  apply and_congr
  · rw [← BitVec.toNat_inj, BitVec.extractLsb'_toNat, Nat.shiftRight_eq_div_pow]
    rfl
  · rw [ne_eq, ← BitVec.toNat_inj, BitVec.extractLsb'_toNat, Nat.shiftRight_zero]
    rfl

theorem toBits_toFloat (x : Double) :
    x.toFloat.toBits = if x.isNaN then Float.nan.toBits else x.bits := by
  have hpack := @UnpackedFloat.pack_unpack .binary64 x.bits.toBitVec (by decide)
  rw [isNaNBits_eq] at hpack
  apply UInt64.toBitVec_inj.mp
  refine hpack.trans ?_
  split
  · rfl
  · rfl

theorem isNaN_ofNan : (Double.mk Float.nan.toBits).isNaN = true := rfl

theorem toFloat_eq_nan_iff (x : Double) : x.toFloat = Float.nan ↔ x.isNaN = true := by
  rw [← Float.toBits_inj, toBits_toFloat]
  cases hnan : x.isNaN with
  | true => exact iff_of_true rfl rfl
  | false =>
    refine iff_of_false ?_ Bool.false_ne_true
    intro hbits
    have hx : x = ⟨Float.nan.toBits⟩ := congrArg Double.mk hbits
    rw [hx, isNaN_ofNan] at hnan
    cases hnan

theorem toFloat_eq_iff {x : Double} (hx : x.isNaN = false) (f : Float) :
    x.toFloat = f ↔ x.bits = f.toBits := by
  rw [← Float.toBits_inj, toBits_toFloat, hx]
  rfl

theorem toBits_zero : (0 : Float).toBits = 0 := rfl

theorem toBits_neg_zero : (-0 : Float).toBits = 0x8000000000000000 := rfl

theorem magnitude_eq_zero_iff (x : Double) :
    x.magnitude = 0 ↔ x.bits = 0 ∨ x.bits = 0x8000000000000000 := by
  have hlt := x.bits.toNat_lt
  have hmagnitude : x.magnitude = x.bits.toNat % 2 ^ 63 := rfl
  rw [hmagnitude, ← UInt64.toNat_inj, ← UInt64.toNat_inj]
  simp only [UInt64.reduceToNat]
  omega

/-- Equality of doubles as numbers compare. -/
theorem same_iff (x y : Double) :
    x.same y = true ↔ x.isNaN = false ∧ y.isNaN = false ∧
      (x = y ∨ x.magnitude = 0 ∧ y.magnitude = 0) := by
  have hbeq : x.same y = true ↔ _ := Float.beq_iff_ne_nan_and_eq
  rw [hbeq, ne_eq, ne_eq, toFloat_eq_nan_iff, toFloat_eq_nan_iff, Bool.not_eq_true,
    Bool.not_eq_true]
  apply and_congr_right
  intro hx
  apply and_congr_right
  intro hy
  have hfloats : x.toFloat = y.toFloat ↔ x = y := by
    rw [toFloat_eq_iff hx, toBits_toFloat, hy]
    exact ⟨congrArg Double.mk, congrArg Double.bits⟩
  rw [hfloats, toFloat_eq_iff hx, toFloat_eq_iff hx, toFloat_eq_iff hy, toFloat_eq_iff hy,
    toBits_zero, toBits_neg_zero, magnitude_eq_zero_iff, magnitude_eq_zero_iff]
  constructor
  · rintro (heq | ⟨hx, hy⟩ | ⟨hx, hy⟩)
    · exact .inl heq
    · exact .inr ⟨.inl hx, .inr hy⟩
    · exact .inr ⟨.inr hx, .inl hy⟩
  · rintro (heq | ⟨hx | hx, hy | hy⟩)
    · exact .inl heq
    · exact .inl (congrArg Double.mk (hx.trans hy.symm))
    · exact .inr (.inl ⟨hx, hy⟩)
    · exact .inr (.inr ⟨hx, hy⟩)
    · exact .inl (congrArg Double.mk (hx.trans hy.symm))

theorem isNaN_of_isFinite {x : Double} (h : x.isFinite = true) : x.isNaN = false := by
  have hlt : x.magnitude < infinityBits := of_decide_eq_true h
  exact decide_eq_false (Nat.not_lt.mpr (Nat.le_of_lt hlt))

theorem same_self {x : Double} (h : x.isNaN = false) : x.same x = true :=
  (same_iff x x).mpr ⟨h, h, .inl rfl⟩

/-- What is the same as a finite double is finite. -/
theorem isFinite_of_same {x y : Double} (h : x.same y = true) (hx : x.isFinite = true) :
    y.isFinite = true := by
  obtain ⟨-, -, rfl | ⟨-, hy⟩⟩ := (same_iff x y).mp h
  · exact hx
  · apply decide_eq_true
    rw [hy]
    decide

end ShippingRules.Double
