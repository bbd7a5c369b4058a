import Mathlib
import RuleBook.Number.Exact

/-!
# Doubles and their bit patterns

A double is determined by its sign and its magnitude bits.  There is a single NaN, so
every double that is one is the same.
-/

namespace RuleBook.Number

open Float.Model Float.Model.UnpackedFloat

theorem toNat_unpackSign (bits : BitVec 64) :
    (@unpackSign Format.binary64 bits).toNat = bits.toNat / 2 ^ 63 % 2 := by
  simp [unpackSign, BitVec.extractLsb, BitVec.extractLsb', Nat.shiftRight_eq_div_pow]

theorem toNat_unpackMantissa (bits : BitVec 64) :
    (@unpackMantissa Format.binary64 bits).toNat = bits.toNat % 2 ^ 52 := by
  simp [unpackMantissa, BitVec.extractLsb, BitVec.extractLsb']

theorem toNat_unpackExponent (bits : BitVec 64) :
    (@unpackExponent Format.binary64 bits).toNat = bits.toNat / 2 ^ 52 % 2 ^ 11 := by
  simp [unpackExponent, BitVec.extractLsb, BitVec.extractLsb', Nat.shiftRight_eq_div_pow]

theorem ofBits_toBits (x : Float) : Float.ofBits x.toBits = x := by
  obtain ⟨⟨bits, hvalid⟩⟩ := x
  change Float.ofModel (Float.Model.ofBits bits) = _
  congr 1
  unfold Float.Model.ofBits Float.Model.pack
  congr 1
  rw [pack_unpack_of_valid hvalid]

theorem ofSignAndBits_self (x : Float) :
    ofSignAndBits (isNegative x) (magnitudeBits x) = x := by
  have hlt : x.toBits.toNat < 2 ^ 64 := x.toBits.toNat_lt
  have hbits : (if isNegative x = true then Nat.pow 2 63 + magnitudeBits x
      else magnitudeBits x) = x.toBits.toNat := by
    simp only [isNegative, magnitudeBits, decide_eq_true_eq, Nat.pow_eq]
    split <;> omega
  rw [ofSignAndBits, hbits, UInt64.ofNat_toNat, ofBits_toBits]

theorem eq_infinity {x : Float} (hnan : isNaN x = false) (hfinite : isFinite x = false) :
    x = infinity (isNegative x) := by
  simp only [isNaN, isFinite, decide_eq_false_iff_not] at hnan hfinite
  have hbits : magnitudeBits x = infinityBits := by omega
  rw [infinity, ← hbits, ofSignAndBits_self]

theorem eq_nan {x : Float} (h : isNaN x = true) : x = nan := by
  have hbits : infinityBits < magnitudeBits x := of_decide_eq_true h
  simp only [magnitudeBits, infinityBits, Nat.pow_eq] at hbits
  have hlt : x.toBits.toNat < 2 ^ 64 := x.toBits.toNat_lt
  have hexponent : @unpackExponent Format.binary64 x.toBits.toBitVec = -1#11 := by
    apply BitVec.eq_of_toNat_eq
    rw [toNat_unpackExponent]
    change x.toBits.toNat / 2 ^ 52 % 2 ^ 11 = 2047
    omega
  have hmantissa : @unpackMantissa Format.binary64 x.toBits.toBitVec ≠ 0#52 := by
    intro hzero
    have hnat := congrArg BitVec.toNat hzero
    rw [toNat_unpackMantissa] at hnat
    change x.toBits.toNat % 2 ^ 52 = 0 at hnat
    omega
  have hbits : x.toBits = 0x7ff8000000000000 :=
    UInt64.toBitVec_inj.1 (x.toModel.valid.eq_packedNaN hexponent hmantissa)
  rw [← ofBits_toBits x, hbits, nan]

end RuleBook.Number
