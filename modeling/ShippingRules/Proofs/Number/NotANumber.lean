import ShippingRules.Number.Numeral
import ShippingRules.Proofs.Number.Order

/-!
Where a NaN comes from and what it does. A text and a whole number are never read as one, and a sum
stays a number as long as what is added is finite, even if the sum overflows. Numbers are ordered;
no comparison with a NaN holds.
-/
namespace ShippingRules

section Reading

theorem Double.isNaN_ofMagnitude (negative : Bool) {bits : Nat} (h : bits ≤ Double.infinityBits) :
    (Double.ofMagnitude negative bits).isNaN = false := by
  have hbits : bits < 2 ^ 63 := Nat.lt_of_le_of_lt h (by decide)
  rw [Double.isNaN, Double.magnitude_ofMagnitude negative hbits]
  exact decide_eq_false (Nat.not_lt.mpr h)

theorem Double.isNaN_ofNat (n : Nat) : (Double.ofNat n).isNaN = false :=
  Double.isNaN_ofMagnitude false (Nat.min_le_right _ _)

theorem Decimal.nearestBits_le (d : Decimal) : d.nearestBits ≤ Double.infinityBits := by
  unfold Decimal.nearestBits
  split
  · exact Nat.zero_le _
  · split
    · exact Nat.le_refl _
    · split
      · exact Nat.zero_le _
      · exact Nat.min_le_right _ _

theorem Numeral.isNaN_of_leading? {s : String} {x : Double} (h : Numeral.leading? s = some x) :
    x.isNaN = false := by
  obtain ⟨⟨n, rest⟩, -, rfl⟩ := Option.map_eq_some_iff.mp h
  exact Double.isNaN_ofMagnitude n.negative n.decimal.nearestBits_le

end Reading

namespace Double

open Float.Model (Format UnpackedFloat)
open Float.Model.UnpackedFloat (unpackExponent unpackMantissa packComponents)

section Comparison

variable {x y : Float}

theorem toFloat_ofFloat (x : Float) : (ofFloat x).toFloat = x := Float.ofBits_toBits x

theorem isNaN_toFloat (x : Double) : x.toFloat.isNaN = x.isNaN := by
  rw [Float.isNaN_eq_decide_eq_nan, Bool.eq_iff_iff, decide_eq_true_iff]
  exact toFloat_eq_nan_iff x

theorem isNaN_ofFloat (x : Float) : (ofFloat x).isNaN = x.isNaN := by
  rw [← isNaN_toFloat, toFloat_ofFloat]

theorem lt_iff_compare : x < y ↔ x.toModel.unpack.compare y.toModel.unpack = some .lt := by
  have hlt : x < y ↔ (x.toModel.unpack.compare y.toModel.unpack == some .lt) = true :=
    decide_eq_true_iff
  rw [hlt, beq_iff_eq]

theorem le_iff_compare :
    x ≤ y ↔ (x.toModel.unpack.compare y.toModel.unpack).any Ordering.isLE = true :=
  decide_eq_true_iff

/-- Numbers are ordered: one is less than another just when the other is not at most the one. -/
theorem lt_iff_not_le (hx : x.isNaN = false) (hy : y.isNaN = false) : x < y ↔ ¬y ≤ x := by
  rw [← isNaN_ofFloat] at hx hy
  have hle := toFloat_le_iff hy hx
  have hcompare := compare_toFloat hx hy
  rw [toFloat_ofFloat, toFloat_ofFloat] at hle hcompare
  rw [lt_iff_compare, hcompare, hle, Option.some_inj, compare_lt_iff_lt, Int.not_le]

theorem compare_of_isNaN (h : x.isNaN = true ∨ y.isNaN = true) :
    x.toModel.unpack.compare y.toModel.unpack = none := by
  obtain hx | hy := h
  · have hunpack : x.toModel.unpack = .notANumber := UnpackedFloat.isNaN_iff.mp hx
    rw [hunpack]
    rfl
  · have hunpack : y.toModel.unpack = .notANumber := UnpackedFloat.isNaN_iff.mp hy
    rw [hunpack]
    cases x.toModel.unpack <;> rfl

theorem not_lt_of_isNaN (h : x.isNaN = true ∨ y.isNaN = true) : ¬x < y := by
  rw [lt_iff_compare, compare_of_isNaN h]
  exact (Option.some_ne_none _).symm

theorem not_le_of_isNaN (h : x.isNaN = true ∨ y.isNaN = true) : ¬x ≤ y := by
  rw [le_iff_compare, compare_of_isNaN h]
  exact Bool.false_ne_true

end Comparison

section Sums

theorem packComponents_ne_packedNaN (sign : UnpackedFloat.Sign)
    {exponent : BitVec Format.binary64.exponentBits}
    {mantissa : BitVec Format.binary64.mantissaBitsWithoutImplicit}
    (h : exponent ≠ -1#_ ∨ mantissa = 0#_) :
    packComponents .binary64 sign exponent mantissa ≠ UnpackedFloat.packedNaN .binary64 := by
  intro heq
  have hexponent := congrArg unpackExponent heq
  have hmantissa := congrArg unpackMantissa heq
  rw [UnpackedFloat.packedNaN, UnpackedFloat.unpackExponent_packComponents,
    UnpackedFloat.unpackExponent_packComponents] at hexponent
  rw [UnpackedFloat.packedNaN, UnpackedFloat.unpackMantissa_packComponents,
    UnpackedFloat.unpackMantissa_packComponents] at hmantissa
  obtain hother | hempty := h
  · exact hother hexponent
  · rw [hempty] at hmantissa
    exact absurd hmantissa (by decide)

/-- What is no NaN is not packed as one, whether or not it overflows. -/
theorem pack_ne_packedNaN {u : UnpackedFloat} (h : u ≠ .notANumber) :
    UnpackedFloat.pack .binary64 u ≠ UnpackedFloat.packedNaN .binary64 := by
  fun_cases UnpackedFloat.pack .binary64 u with
  | case1 => exact absurd rfl h
  | case2 s => exact packComponents_ne_packedNaN s (.inr rfl)
  | case3 s => exact packComponents_ne_packedNaN s (.inr rfl)
  | case4 s => exact packComponents_ne_packedNaN s (.inr rfl)
  | case5 s mantissa exponent hpos bits biased hsmall =>
    have hlt : biased + 1 < 2 ^ 11 := Nat.not_le.mp hsmall
    refine packComponents_ne_packedNaN s (.inl fun hones => ?_)
    have hnat : biased % 2 ^ 11 = 2 ^ 11 - 1 := congrArg BitVec.toNat hones
    omega
  | case6 s => exact packComponents_ne_packedNaN s (.inl (by decide))

theorem isNaN_unpack_pack (u : UnpackedFloat) : (Float.Model.pack u).unpack.isNaN = u.isNaN := by
  have hpacked : (Float.Model.pack u).unpack.isNaN = true ↔
      UnpackedFloat.pack .binary64 u = UnpackedFloat.packedNaN .binary64 :=
    UnpackedFloat.isNaN_unpack_iff_of_valid UnpackedFloat.valid_pack
  rw [Bool.eq_iff_iff, hpacked, UnpackedFloat.isNaN_iff]
  constructor
  · exact not_imp_not.mp pack_ne_packedNaN
  · intro hnan
    rw [hnan]
    rfl

theorem isNaN_roundWithAccuracy (sign : UnpackedFloat.Sign) (mantissa : Nat) (exponent : Int)
    (accuracy : UnpackedFloat.Accuracy) :
    (UnpackedFloat.roundWithAccuracy .binary64 sign mantissa exponent accuracy).isNaN = false := by
  unfold UnpackedFloat.roundWithAccuracy
  dsimp only
  split <;> rfl

theorem isNaN_normalize (mantissa exponent : Int) (sign : UnpackedFloat.Sign) :
    (UnpackedFloat.normalize .binary64 mantissa exponent sign).isNaN = false := by
  unfold UnpackedFloat.normalize
  split
  · exact isNaN_roundWithAccuracy _ _ _ _
  · rfl
  · exact isNaN_roundWithAccuracy _ _ _ _

/-- Only opposite infinities add up to no number. -/
theorem isNaN_add_unpacked {u v : UnpackedFloat} (hu : u.isNaN = false) (hv : v.isFinite = true) :
    (UnpackedFloat.add .binary64 u v).isNaN = false := by
  cases u with
  | notANumber => cases hu
  | infinity s =>
    cases v with
    | notANumber | infinity => cases hv
    | zero | finite => rfl
  | zero s =>
    cases v with
    | notANumber | infinity => cases hv
    | zero t => cases s <;> cases t <;> rfl
    | finite => rfl
  | finite =>
    cases v with
    | notANumber | infinity => cases hv
    | zero => rfl
    | finite => exact isNaN_normalize _ _ _

theorem isNaN_add {x y : Float} (hx : x.isNaN = false) (hy : y.isFinite = true) :
    (x + y).isNaN = false :=
  (isNaN_unpack_pack _).trans (isNaN_add_unpacked hx hy)

/-- However many finite amounts are added up, the sum is a number. -/
theorem isNaN_foldl_add {α : Type} {amount : α → Float} {items : List α} {sum : Float}
    (hsum : sum.isNaN = false) (h : ∀ item ∈ items, (amount item).isFinite = true) :
    (items.foldl (fun sum item => sum + amount item) sum).isNaN = false := by
  induction items generalizing sum with
  | nil => exact hsum
  | cons item rest ih =>
    exact ih (isNaN_add hsum (h item List.mem_cons_self))
      fun other hother => h other (List.mem_cons_of_mem item hother)

end Sums

end Double

end ShippingRules
