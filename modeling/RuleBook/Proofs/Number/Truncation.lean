import RuleBook.Proofs.Number.Rounding

/-!
# Whole parts in order

The value of a double grows with its magnitude bits, over the steps between subnormal numbers
and from one exponent to the next.  So the whole part of a double, held within 64 bits, is no
less for a double that is no less.
-/

namespace RuleBook.Number

namespace Magnitude

theorem ofBits_succ (bits : Nat) :
    (ofBits (bits + 1)).exponent = (ofBits bits).exponent ∧
        (ofBits (bits + 1)).coefficient = (ofBits bits).coefficient + 1 ∨
      (ofBits (bits + 1)).exponent = (ofBits bits).exponent + 1 ∧
        2 * (ofBits (bits + 1)).coefficient = (ofBits bits).coefficient + 1 := by
  unfold ofBits
  simp only [Nat.pow_eq]
  split <;> split <;> dsimp only <;> omega

theorem value_mono : Monotone fun bits =>
    ((ofBits bits).numerator : ℚ) / (ofBits bits).denominator := by
  refine monotone_nat_of_le_succ fun bits => ?_
  simp only [value]
  rcases ofBits_succ bits with ⟨hexponent, hcoefficient⟩ | ⟨hexponent, hcoefficient⟩
  · rw [hexponent, hcoefficient]
    gcongr
    exact Nat.le_succ _
  · have hfull : ((ofBits bits).coefficient : ℚ) ≤ 2 * (ofBits (bits + 1)).coefficient := by
      exact_mod_cast (Nat.le_succ _).trans_eq hcoefficient.symm
    calc ((ofBits bits).coefficient : ℚ) * 2 ^ (ofBits bits).exponent
        ≤ 2 * (ofBits (bits + 1)).coefficient * 2 ^ (ofBits bits).exponent := by gcongr
      _ = (ofBits (bits + 1)).coefficient * 2 ^ (ofBits (bits + 1)).exponent := by
          rw [hexponent, zpow_add₀ (by norm_num), zpow_one]
          ring

def whole (m : Magnitude) : Nat := m.numerator / m.denominator

theorem whole_mono {a b : Nat} (h : a ≤ b) : (ofBits a).whole ≤ (ofBits b).whole := by
  rw [whole, whole, ← Nat.floor_div_eq_div (K := ℚ), ← Nat.floor_div_eq_div (K := ℚ)]
  exact Nat.floor_mono (value_mono h)

theorem whole_zero : (ofBits 0).whole = 0 := by
  rw [whole, numerator, show (ofBits 0).coefficient = 0 from rfl, Nat.zero_mul, Nat.zero_div]

end Magnitude

theorem toInt64_eq {x : Float} (h : isFinite x = true) :
    toInt64 x = if isNegative x then max (-((magnitude x).whole : Int)) minInt64
      else min ((magnitude x).whole : Int) maxInt64 := by
  have hnan : isNaN x = false := by
    simp only [isFinite, isNaN, decide_eq_true_eq, decide_eq_false_iff_not] at h ⊢
    omega
  rw [toInt64, hnan, h]
  rfl

theorem toInt64_mono {x y : Float} (hx : isFinite x = true) (hy : isFinite y = true)
    (h : orderKey x ≤ orderKey y) : toInt64 x ≤ toInt64 y := by
  have hmin : minInt64 ≤ 0 := by decide
  have hmax : 0 ≤ maxInt64 := by decide
  rw [toInt64_eq hx, toInt64_eq hy]
  unfold orderKey at h
  cases hnegative : isNegative x <;> cases hnegative' : isNegative y <;>
    simp only [hnegative, hnegative', Bool.false_eq_true, if_true, if_false] at h ⊢
  · have hwhole : (magnitude x).whole ≤ (magnitude y).whole := Magnitude.whole_mono (by omega)
    omega
  · -- Both are zero, or the negative one would lie above.
    have hzero : (magnitude x).whole ≤ 0 :=
      (Magnitude.whole_mono (by omega)).trans_eq Magnitude.whole_zero
    have hzero' : (magnitude y).whole ≤ 0 :=
      (Magnitude.whole_mono (by omega)).trans_eq Magnitude.whole_zero
    omega
  · omega
  · have hwhole : (magnitude y).whole ≤ (magnitude x).whole := Magnitude.whole_mono (by omega)
    omega

end RuleBook.Number
