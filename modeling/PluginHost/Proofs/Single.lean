import PluginHost.Instances
import PluginHost.Single
import Mathlib

/-!
# Singles survive as doubles

`ofDouble_toDouble`: a single that is made a double and then a single again is what it was, whatever it is. A finite
single is in canonical form (`unpack_canonical`); as a double it has its mantissa shifted up to 53 bits (`round_up`),
which packs without loss (`unpack_pack_normal`), and rounding shifts the same bits out again, all of them zero
(`round_down`).
-/

namespace PluginHost.Single

open Float.Model (Format UnpackedFloat totalExponent)
open Float.Model.UnpackedFloat

/-! ## Rounding exact numbers -/

/-- Shifting out bits that are zero loses nothing. -/
theorem shiftRight_mul_pow (k : Nat) : ∀ m : Nat,
    (ExtendedMantissa.ofMantissaAndAccuracy (m * 2 ^ k) .exact) >>> k = ⟨m, false, false⟩ := by
  induction k with
  | zero => intro m; simp [HShiftRight.hShiftRight, Nat.repeat, ExtendedMantissa.ofMantissaAndAccuracy]
  | succ k ih =>
    intro m
    have h := ih (2 * m)
    rw [show 2 * m * 2 ^ k = m * 2 ^ (k + 1) by rw [Nat.pow_succ]; ring] at h
    show ExtendedMantissa.shiftRightOne (ExtendedMantissa.ofMantissaAndAccuracy (m * 2 ^ (k + 1)) .exact >>> k) = _
    rw [h]
    simp [ExtendedMantissa.shiftRightOne]

theorem log2_mul_pow {m : Nat} (hm : 0 < m) (k : Nat) : (m * 2 ^ k).log2 = m.log2 + k := by
  have h1 := Nat.log2_self_le (Nat.ne_of_gt hm)
  have h2 := @Nat.lt_log2_self m
  rw [Nat.log2_eq_iff (Nat.ne_of_gt (Nat.mul_pos hm (Nat.two_pow_pos k))), Nat.pow_add,
    show m.log2 + k + 1 = m.log2 + 1 + k by omega, Nat.pow_add]
  exact ⟨Nat.mul_le_mul_right _ h1, Nat.mul_lt_mul_of_pos_right h2 (Nat.two_pow_pos k)⟩

theorem totalExponent_mul_pow {m : Nat} (hm : 0 < m) (e : Int) (k : Nat) :
    totalExponent (m * 2 ^ k) (e - k) = totalExponent m e := by
  simp only [totalExponent, log2_mul_pow hm]
  omega

variable {spec : Format} {s : Sign} {m : Nat} {e : Int} (hm : 0 < m)
include hm

/-- Bits below the target exponent that are zero are rounded away. -/
theorem roundWithAccuracy_mul_pow (h : spec.targetExponent (totalExponent m e) = e) (k : Nat) :
    roundWithAccuracy spec s (m * 2 ^ k) (e - k) .exact = .finite s m e hm := by
  have hk : (e - (e - (k : Int))).toNat = k := by omega
  have h0 := shiftRight_mul_pow 0 m
  simp only [Nat.pow_zero, Nat.mul_one] at h0
  simp only [roundWithAccuracy, shiftToTargetExponent, shiftToExponent, totalExponent_mul_pow hm, h, hk,
    shiftRight_mul_pow, ExtendedMantissa.roundedMantissa, ExtendedMantissa.accuracy, Accuracy.roundToNearestEven,
    Int.sub_add_cancel, Int.sub_self, Int.toNat_zero, h0]
  rw [dif_neg (Nat.ne_of_gt hm)]
  simp

/-- A number whose canonical form has a larger exponent is rounded down to it. -/
theorem round_down (h : spec.targetExponent (totalExponent m e) = e) (k : Nat) :
    UnpackedFloat.round spec s (m * 2 ^ k) (e - k) = .finite s m e hm := by
  have hk : (e - k - e).toNat = 0 := by omega
  simp only [UnpackedFloat.round, decreaseExponent, totalExponent_mul_pow hm, h, hk, Nat.shiftLeft_zero, Int.ofNat_zero,
    Int.sub_zero]
  exact roundWithAccuracy_mul_pow hm h k

/-- A number whose canonical form has a smaller exponent is shifted up to it. -/
theorem round_up {k : Nat} (h : spec.targetExponent (totalExponent m e) = e - k) :
    UnpackedFloat.round spec s m e = .finite s (m * 2 ^ k) (e - k) (Nat.mul_pos hm (Nat.two_pow_pos k)) := by
  have hk : (e - (e - (k : Int))).toNat = k := by omega
  have hm' : 0 < m * 2 ^ k := Nat.mul_pos hm (Nat.two_pow_pos k)
  have ht : spec.targetExponent (totalExponent (m * 2 ^ k) (e - k)) = e - k := by rw [totalExponent_mul_pow hm, h]
  have := roundWithAccuracy_mul_pow (s := s) hm' ht 0
  simp only [UnpackedFloat.round, decreaseExponent, h, hk, Nat.shiftLeft_eq]
  simpa using this

omit hm

/-! ## Packing -/

/-- A mantissa with the leading bit that is not stored. -/
theorem toNat_leading {w : Nat} (v : BitVec w) : (1#1 ++ v).toNat = 2 ^ w + v.toNat := by
  rw [BitVec.toNat_append, ← Nat.shiftLeft_add_eq_or_of_lt v.isLt]
  simp [Nat.shiftLeft_eq]

/-- A normal number of a format unpacks as itself. -/
theorem unpack_pack_normal {spec : Format} {s : Sign} {m : Nat} {e : Int} (hm : 0 < m)
    (hl : m.log2 = spec.mantissaBitsWithoutImplicit)
    (h1 : 0 < e + spec.exponentBias + spec.mantissaBitsWithoutImplicit)
    (h2 : e + spec.exponentBias + spec.mantissaBitsWithoutImplicit + 1 < 2 ^ spec.exponentBits) :
    unpack spec (pack spec (.finite s m e hm)) = .finite s m e hm := by
  obtain ⟨n, hn⟩ := Int.eq_ofNat_of_zero_le (Int.le_of_lt h1)
  have hn2 : n + 1 < 2 ^ spec.exponentBits := by
    have : ((n + 1 : Nat) : Int) < ((2 ^ spec.exponentBits : Nat) : Int) := by push_cast; omega
    exact_mod_cast this
  have hmod : n % 2 ^ spec.exponentBits = n := Nat.mod_eq_of_lt (by omega)
  have hb := (Nat.log2_eq_iff (Nat.ne_of_gt hm)).1 hl
  rw [Nat.pow_succ] at hb
  have hmant : m % 2 ^ spec.mantissaBitsWithoutImplicit = m - 2 ^ spec.mantissaBitsWithoutImplicit := by
    rw [Nat.mod_eq_sub_mod hb.1, Nat.mod_eq_of_lt (by omega)]
  simp only [pack, hn, Int.toNat_natCast, Format.mantissaBits]
  rw [if_neg (by omega), if_pos (by omega)]
  simp only [unpack, unpackExponent_packComponents, unpackMantissa_packComponents, unpackSign_packComponents,
    Sign.ofBitVec_toBitVec]
  rw [if_neg, if_neg]
  · simp only [toNat_leading, BitVec.toNat_ofNat, hmod, hmant, UnpackedFloat.finite.injEq, true_and]
    omega
  · intro h
    have := congrArg BitVec.toNat h
    simp [hmod] at this
    omega
  · intro h
    have := congrArg BitVec.toNat h
    rw [BitVec.neg_one_eq_allOnes] at this
    simp [hmod] at this
    omega

/-! ## Singles as doubles -/

/-- A finite single is in canonical form, and its exponent is bounded. -/
theorem unpack_canonical {b : BitVec Format.binary32.numBits} {s : Sign} {m : Nat} {e : Int} {hm : 0 < m}
    (h : unpack Format.binary32 b = .finite s m e hm) :
    Format.binary32.targetExponent (totalExponent m e) = e ∧ m.log2 < 24 ∧ -149 ≤ e ∧ e ≤ 104 := by
  have hm1 : (unpackMantissa b).toNat < 2 ^ 23 := (unpackMantissa b).isLt
  have he1 : (unpackExponent b).toNat < 2 ^ 8 := (unpackExponent b).isLt
  have hbias : Format.binary32.exponentBias = 127 := by decide
  have hmin : Format.binary32.minExponent = -149 := by decide
  have hbits : Format.binary32.mantissaBits = 24 := by decide
  simp only [unpack, hbias] at h
  split at h
  · split at h <;> cases h
  · rename_i h1
    have h1' : (unpackExponent b).toNat ≠ 255 := by
      intro h'
      exact h1 (BitVec.eq_of_toNat_eq (by rw [h']; rfl))
    split at h
    · rename_i h2
      split at h
      · cases h
      · rename_i h3
        simp only [UnpackedFloat.finite.injEq] at h
        obtain ⟨_, rfl, rfl⟩ := h
        have hl := (Nat.log2_lt (k := 23) (Nat.ne_of_gt hm)).2 hm1
        have he0 : (unpackExponent b).toNat = 0 := by rw [h2]; rfl
        simp only [Format.targetExponent, totalExponent, hmin, hbits, he0]
        omega
    · rename_i h2
      have h2' : (unpackExponent b).toNat ≠ 0 := by
        intro h'
        exact h2 (BitVec.eq_of_toNat_eq (by rw [h']; rfl))
      simp only [UnpackedFloat.finite.injEq, toNat_leading] at h
      obtain ⟨_, rfl, rfl⟩ := h
      have hl : (2 ^ 23 + (unpackMantissa b).toNat).log2 = 23 := by
        rw [Nat.log2_eq_iff (by omega)]
        omega
      simp only [Format.targetExponent, totalExponent, hmin, hbits, hl]
      omega

/-- A finite single, taken apart, is rounded to a double and back without loss. -/
theorem roundTo_single_of_double {s : Sign} {m : Nat} {e : Int} (hm : 0 < m)
    (ht : Format.binary32.targetExponent (totalExponent m e) = e) (hl : m.log2 < 24) (h1 : -149 ≤ e) (h2 : e ≤ 104) :
    roundTo .binary32 (unpack .binary64 (pack .binary64 (roundTo .binary64 (.finite s m e hm)))) =
      .finite s m e hm := by
  have hmin : Format.binary64.minExponent = -1074 := by decide
  have hbits : Format.binary64.mantissaBits = 53 := by decide
  have hbias : Format.binary64.exponentBias = 1023 := by decide
  obtain ⟨k, hk⟩ : ∃ k, m.log2 + k = 52 := ⟨52 - m.log2, by omega⟩
  have ht64 : Format.binary64.targetExponent (totalExponent m e) = e - k := by
    simp only [Format.targetExponent, totalExponent, hmin, hbits]
    omega
  simp only [roundTo, round_up hm ht64]
  rw [unpack_pack_normal _ (by rw [log2_mul_pow hm]; exact hk) (by simp only [hbias]; omega)
    (by simp only [hbias]; omega)]
  exact round_down hm ht k

/-- **A single survives as a double.** -/
theorem ofDouble_toDouble (x : Float32) : ofDouble (toDouble x) = x := by
  have hp : Float32.Model.pack (Float32.Model.unpack x.toModel) = x.toModel := by
    obtain ⟨⟨bits, hv⟩⟩ := x
    simp only [Float32.Model.pack, Float32.Model.unpack, pack_unpack_of_valid hv]
  suffices h : roundTo .binary32 (unpack .binary64 (pack .binary64 (roundTo .binary64 x.toModel.unpack)))
      = x.toModel.unpack by
    show Float32.ofModel (Float32.Model.pack (roundTo .binary32 (unpack .binary64 (pack .binary64
      (roundTo .binary64 x.toModel.unpack))))) = x
    rw [h, hp]
  cases hx : x.toModel.unpack with
  | infinity s => cases s <;> rfl
  | notANumber => rfl
  | zero s => cases s <;> rfl
  | finite s m e hm =>
    obtain ⟨ht, hl, h1, h2⟩ := unpack_canonical hx
    exact roundTo_single_of_double hm ht hl h1 h2

end PluginHost.Single
