import RuleBook.Proofs.Number.Text

/-!
# Negated doubles

Multiplying by -1 is exact, so it turns the sign of a double and keeps its magnitude.  A
decimal with a minus in front of it therefore reads as the product of -1 and the decimal
without.
-/

namespace RuleBook

namespace Number

open Float.Model Float.Model.UnpackedFloat

section

variable {m : Nat} {e : Int}

private theorem log2_two_pow_mul (hm : 0 < m) (k : Nat) : (2 ^ k * m).log2 = m.log2 + k := by
  induction k with
  | zero => rw [Nat.pow_zero, Nat.one_mul, Nat.add_zero]
  | succ k ih =>
      have hpos : 2 ^ k * m ≠ 0 := (Nat.mul_pos (Nat.two_pow_pos k) hm).ne'
      rw [Nat.pow_succ', Nat.mul_assoc, Nat.log2_two_mul hpos, ih, Nat.add_assoc]

private theorem repeat_shiftRightOne (m k : Nat) :
    Nat.repeat ExtendedMantissa.shiftRightOne k ⟨2 ^ k * m, false, false⟩ = ⟨m, false, false⟩ := by
  induction k generalizing m with
  | zero => simp [Nat.repeat]
  | succ k ih =>
      have hdouble : 2 ^ (k + 1) * m = 2 ^ k * (2 * m) := by ring
      rw [Nat.repeat, hdouble, ih]
      simp [ExtendedMantissa.shiftRightOne]

def IsCanonical (m : Nat) (e : Int) : Prop :=
  Format.binary64.targetExponent (totalExponent m e) = e

private theorem shiftToTargetExponent_exact (hm : 0 < m) (h : IsCanonical m e) (k : Nat) :
    shiftToTargetExponent Format.binary64 (2 ^ k * m) (e - k) .exact = (⟨m, false, false⟩, e) := by
  have htotal : totalExponent (2 ^ k * m) (e - k) = totalExponent m e := by
    simp only [totalExponent, log2_two_pow_mul hm k]
    omega
  have hshift : (e - (e - k)).toNat = k := by omega
  rw [shiftToTargetExponent, htotal, h, shiftToExponent]
  simp only [hshift, ExtendedMantissa.ofMantissaAndAccuracy]
  refine Prod.ext (repeat_shiftRightOne m k) ?_
  change e - k + k = e
  omega

private theorem roundWithAccuracy_exact (hm : 0 < m) (h : IsCanonical m e) (k : Nat) (s : Sign) :
    roundWithAccuracy Format.binary64 s (2 ^ k * m) (e - k) .exact = .finite s m e hm := by
  have hagain := shiftToTargetExponent_exact hm h 0
  rw [Nat.pow_zero, Nat.one_mul, Nat.cast_zero, Int.sub_zero] at hagain
  have hround : (⟨m, false, false⟩ : ExtendedMantissa).roundedMantissa = m := rfl
  simp only [roundWithAccuracy, shiftToTargetExponent_exact hm h k, hround, hagain]
  rw [dif_neg hm.ne']

def minusOne : UnpackedFloat := .finite .negative (2 ^ 52) (-52) (Nat.two_pow_pos 52)

private theorem minusOne_mul_finite (s : Sign) (hm : 0 < m) (h : IsCanonical m e) :
    mul Format.binary64 minusOne (.finite s m e hm) = .finite (-s) m e hm := by
  have hsign : Sign.negative * s = -s := by cases s <;> rfl
  have hexponent : (-52 : Int) + e = e - (52 : Nat) := by omega
  change roundWithAccuracy Format.binary64 (Sign.negative * s) (2 ^ 52 * m) (-52 + e) .exact = _
  rw [hsign, hexponent, roundWithAccuracy_exact hm h]

end

private theorem isCanonical_subnormal {m : Nat} (hm : m < 2 ^ 52) : IsCanonical m (-1074) := by
  by_cases hzero : m = 0
  · subst hzero
    rfl
  · have hlog := (Nat.log2_lt hzero).2 hm
    simp only [IsCanonical, Format.targetExponent, totalExponent]
    change max _ (-1074) = (-1074 : Int)
    refine max_eq_right ?_
    change (m.log2 : Int) + 1 + -1074 - 53 ≤ -1074
    omega

private theorem isCanonical_normal {m : Nat} {e : Int} (hlow : 2 ^ 52 ≤ m) (hhigh : m < 2 ^ 53)
    (he : -1074 ≤ e) : IsCanonical m e := by
  have hlog : m.log2 = 52 := (Nat.log2_eq_iff (by omega)).2 ⟨hlow, hhigh⟩
  simp only [IsCanonical, Format.targetExponent, totalExponent, hlog]
  change max ((52 : Int) + 1 + e - 53) (-1074) = e
  omega

theorem minusOne_mul_unpack (b : BitVec 64) :
    mul Format.binary64 minusOne (unpack Format.binary64 b) = (unpack Format.binary64 b).neg := by
  have hmantissa : (@unpackMantissa Format.binary64 b).toNat < 2 ^ 52 :=
    (@unpackMantissa Format.binary64 b).isLt
  unfold UnpackedFloat.unpack
  dsimp only
  split
  · split
    · cases Sign.ofBitVec (@unpackSign Format.binary64 b) <;> rfl
    · rfl
  · split
    · next hz =>
      split
      · cases Sign.ofBitVec (@unpackSign Format.binary64 b) <;> rfl
      · refine minusOne_mul_finite _ _ ?_
        rw [hz]
        exact isCanonical_subnormal hmantissa
    · next hz =>
      have hvalue : (1#1 ++ @unpackMantissa Format.binary64 b).toNat =
          2 ^ 52 + (@unpackMantissa Format.binary64 b).toNat := by
        rw [BitVec.toNat_append, BitVec.toNat_ofNat, ← Nat.shiftLeft_add_eq_or_of_lt hmantissa]
        rfl
      have hpos : (@unpackExponent Format.binary64 b).toNat ≠ 0 := fun h =>
        hz (BitVec.eq_of_toNat_eq h)
      refine minusOne_mul_finite _ _ (isCanonical_normal (by omega) (by omega) ?_)
      change (-1074 : Int) ≤ (@unpackExponent Format.binary64 b).toNat - (1023 + 52)
      omega

private theorem unpack_eq_neg {b b' : BitVec 64}
    (hsign : @unpackSign Format.binary64 b' = ~~~@unpackSign Format.binary64 b)
    (hexponent : @unpackExponent Format.binary64 b' = @unpackExponent Format.binary64 b)
    (hmantissa : @unpackMantissa Format.binary64 b' = @unpackMantissa Format.binary64 b) :
    UnpackedFloat.unpack Format.binary64 b' = (UnpackedFloat.unpack Format.binary64 b).neg := by
  have hneg : Sign.ofBitVec (~~~@unpackSign Format.binary64 b) =
      -Sign.ofBitVec (@unpackSign Format.binary64 b) := by
    rcases BitVec.eq_zero_or_eq_one (@unpackSign Format.binary64 b) with h | h <;> rw [h] <;> rfl
  unfold UnpackedFloat.unpack
  dsimp only
  simp only [hsign, hexponent, hmantissa, hneg]
  split
  · split <;> rfl
  · split
    · split <;> rfl
    · rfl

section

variable {bits : Nat}

private theorem unpack_negative (hlt : bits < 2 ^ 63) :
    UnpackedFloat.unpack Format.binary64 (BitVec.ofNat 64 (2 ^ 63 + bits)) =
      (UnpackedFloat.unpack Format.binary64 (BitVec.ofNat 64 bits)).neg := by
  refine unpack_eq_neg ?_ ?_ ?_
  · apply BitVec.eq_of_toNat_eq
    rw [BitVec.toNat_not, toNat_unpackSign, toNat_unpackSign, BitVec.toNat_ofNat,
      BitVec.toNat_ofNat]
    omega
  · apply BitVec.eq_of_toNat_eq
    rw [toNat_unpackExponent, toNat_unpackExponent, BitVec.toNat_ofNat, BitVec.toNat_ofNat]
    omega
  · apply BitVec.eq_of_toNat_eq
    rw [toNat_unpackMantissa, toNat_unpackMantissa, BitVec.toNat_ofNat, BitVec.toNat_ofNat]
    omega

private theorem valid_ofNat (h : bits ≤ infinityBits) :
    Format.binary64.Valid (BitVec.ofNat 64 bits) where
  eq_packedNaN hexponent hmantissa := by
    have hexponent' := congrArg BitVec.toNat hexponent
    have hmantissa' : (@unpackMantissa Format.binary64 (BitVec.ofNat 64 bits)).toNat ≠ 0 :=
      fun hzero => hmantissa (BitVec.eq_of_toNat_eq hzero)
    rw [toNat_unpackExponent, BitVec.toNat_ofNat] at hexponent'
    rw [toNat_unpackMantissa, BitVec.toNat_ofNat] at hmantissa'
    change _ = 2047 at hexponent'
    simp only [infinityBits] at h
    omega

theorem minusOne_mul_ofSignAndBits (h : bits ≤ infinityBits) :
    -1.0 * ofSignAndBits false bits = ofSignAndBits true bits := by
  have hlt : bits < 2 ^ 63 := Nat.lt_of_le_of_lt h (by decide)
  have hminus : (-1.0 : Float).toModel.unpack = minusOne := rfl
  have hunpack : (ofSignAndBits false bits).toModel.unpack =
      UnpackedFloat.unpack Format.binary64 (BitVec.ofNat 64 bits) :=
    congrArg (UnpackedFloat.unpack Format.binary64) (pack_unpack_of_valid (valid_ofNat h))
  have hproduct : -1.0 * ofSignAndBits false bits = Float.ofModel (Float.Model.pack
      (mul Format.binary64 (-1.0 : Float).toModel.unpack
        (ofSignAndBits false bits).toModel.unpack)) := rfl
  rw [hproduct, hminus, hunpack, minusOne_mul_unpack, ← unpack_negative hlt]
  rfl

end

end Number

namespace Decimal

theorem nearestBits_le (d : Decimal) : d.nearestBits ≤ Number.infinityBits := by
  unfold nearestBits
  split
  · exact Nat.zero_le _
  · split
    · exact Nat.le_refl _
    · split
      · exact Nat.zero_le _
      · unfold Number.nearestBits
        split
        · exact Nat.zero_le _
        · exact Nat.min_le_right _ _

theorem toFloat_negative (d : Decimal) : d.toFloat true = -1.0 * d.toFloat false :=
  (Number.minusOne_mul_ofSignAndBits d.nearestBits_le).symm

end Decimal

end RuleBook
