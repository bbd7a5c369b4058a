import RuleBook.Proofs.Number.Bits
import RuleBook.Number.Decimal

/-!
# Rounding exact values

A quotient that is the exact value of a double is rounded to that double.  So all
digits of a double read back as it, and with them the shortest digits do, since those
are only taken when they read back.
-/

namespace RuleBook.Number

private theorem two_zpow (e : Int) : (2 : ℚ) ^ e = (2 : ℚ) ^ e.toNat / (2 : ℚ) ^ (-e).toNat := by
  rcases Int.le_total 0 e with h | h
  · obtain ⟨n, rfl⟩ := Int.eq_ofNat_of_zero_le h
    simp
  · obtain ⟨n, hn⟩ := Int.eq_ofNat_of_zero_le (show 0 ≤ -e by omega)
    obtain rfl : e = -(n : Int) := by omega
    simp

private theorem estimate_iff {numerator denominator : Nat} (hd : 0 < denominator) (e : Int) :
    denominator * Nat.pow 2 e.toNat ≤ numerator * Nat.pow 2 (-e).toNat ↔
      (2 : ℚ) ^ e ≤ (numerator : ℚ) / denominator := by
  have hd' : (0 : ℚ) < denominator := by exact_mod_cast hd
  rw [two_zpow, div_le_div_iff₀ (by positivity) hd', ← Nat.cast_le (α := ℚ)]
  simp only [Nat.pow_eq, Nat.cast_mul, Nat.cast_pow, Nat.cast_ofNat]
  rw [mul_comm]

private theorem zpow_log2_le {n : Nat} (hn : 0 < n) : (2 : ℚ) ^ (n.log2 : ℤ) ≤ n := by
  exact_mod_cast Nat.log2_self_le hn.ne'

private theorem lt_zpow_log2 (n : Nat) : (n : ℚ) < (2 : ℚ) ^ ((n.log2 : ℤ) + 1) := by
  exact_mod_cast Nat.lt_log2_self

private theorem quotient_bounds {numerator denominator : Nat} (hn : 0 < numerator)
    (hd : 0 < denominator) :
    (2 : ℚ) ^ ((numerator.log2 : ℤ) - denominator.log2 - 1) < (numerator : ℚ) / denominator ∧
      (numerator : ℚ) / denominator < (2 : ℚ) ^ ((numerator.log2 : ℤ) - denominator.log2 + 1) := by
  have hd' : (0 : ℚ) < denominator := by exact_mod_cast hd
  have hlow := zpow_log2_le hd
  have hhigh := lt_zpow_log2 denominator
  constructor
  · rw [lt_div_iff₀ hd']
    calc (2 : ℚ) ^ ((numerator.log2 : ℤ) - denominator.log2 - 1) * denominator
        < (2 : ℚ) ^ ((numerator.log2 : ℤ) - denominator.log2 - 1) *
            (2 : ℚ) ^ ((denominator.log2 : ℤ) + 1) := by gcongr
      _ = (2 : ℚ) ^ (numerator.log2 : ℤ) := by
          rw [← zpow_add₀ (by norm_num)]
          congr 1
          omega
      _ ≤ numerator := zpow_log2_le hn
  · rw [div_lt_iff₀ hd']
    calc (numerator : ℚ) < (2 : ℚ) ^ ((numerator.log2 : ℤ) + 1) := lt_zpow_log2 numerator
      _ = (2 : ℚ) ^ ((numerator.log2 : ℤ) - denominator.log2 + 1) *
            (2 : ℚ) ^ (denominator.log2 : ℤ) := by
          rw [← zpow_add₀ (by norm_num)]
          congr 1
          omega
      _ ≤ _ := by gcongr

theorem binaryExponent_eq {numerator denominator : Nat} (hn : 0 < numerator)
    (hd : 0 < denominator) {t : Int}
    (hlow : (2 : ℚ) ^ t ≤ (numerator : ℚ) / denominator)
    (hhigh : (numerator : ℚ) / denominator < (2 : ℚ) ^ (t + 1)) :
    binaryExponent numerator denominator = t := by
  obtain ⟨hlt_quotient, hquotient_lt⟩ := quotient_bounds hn hd
  have hbelow := (zpow_lt_zpow_iff_right₀ (by norm_num)).1 (hlow.trans_lt hquotient_lt)
  have habove := (zpow_lt_zpow_iff_right₀ (by norm_num)).1 (hlt_quotient.trans hhigh)
  rw [binaryExponent]
  simp only [estimate_iff hd]
  split
  · next h =>
    have := (zpow_lt_zpow_iff_right₀ (by norm_num)).1 (h.trans_lt hhigh)
    omega
  · next h =>
    have := (zpow_lt_zpow_iff_right₀ (by norm_num)).1 (hlow.trans_lt (not_le.1 h))
    omega

private theorem roundQuotient_mul {c d : Nat} (hd : 0 < d) : roundQuotient (c * d) d = c := by
  simp [roundQuotient, Nat.mul_div_cancel _ hd, hd]

structure Magnitude.Normal (m : Magnitude) : Prop where
  pos : 0 < m.coefficient
  lt : m.coefficient < 2 ^ 53
  le : -1074 ≤ m.exponent
  full : m.exponent = -1074 ∨ 2 ^ 52 ≤ m.coefficient

theorem Magnitude.Normal.numerator_pos {numerator denominator : Nat} {m : Magnitude}
    (hm : m.Normal) (hd : 0 < denominator)
    (hvalue : (numerator : ℚ) / denominator = m.coefficient * (2 : ℚ) ^ m.exponent) :
    0 < numerator := by
  have hd' : (0 : ℚ) < denominator := by exact_mod_cast hd
  have hpos : (0 : ℚ) < m.coefficient := by exact_mod_cast hm.pos
  have hquotient : (0 : ℚ) < (numerator : ℚ) / denominator := by
    rw [hvalue]
    positivity
  exact_mod_cast (div_pos_iff_of_pos_right hd').1 hquotient

theorem Magnitude.Normal.exponent_eq {numerator denominator : Nat} {m : Magnitude}
    (hm : m.Normal) (hd : 0 < denominator)
    (hvalue : (numerator : ℚ) / denominator = m.coefficient * (2 : ℚ) ^ m.exponent) :
    max (binaryExponent numerator denominator - 52) (-1074) = m.exponent := by
  have hbinary : binaryExponent numerator denominator = m.coefficient.log2 + m.exponent := by
    have hlow := zpow_log2_le hm.pos
    have hhigh := lt_zpow_log2 m.coefficient
    refine binaryExponent_eq (hm.numerator_pos hd hvalue) hd ?_ ?_
    · rw [hvalue, zpow_add₀ (by norm_num)]
      gcongr
    · rw [hvalue, show (m.coefficient.log2 : ℤ) + m.exponent + 1 =
        (m.coefficient.log2 : ℤ) + 1 + m.exponent by omega, zpow_add₀ (by norm_num)]
      gcongr
  have hle := hm.le
  have hlog : m.coefficient.log2 < 53 := (Nat.log2_lt hm.pos.ne').2 hm.lt
  rw [hbinary]
  rcases hm.full with h | h
  · omega
  · have := (Nat.le_log2 hm.pos.ne').2 h
    omega

theorem nearestBits_eq {numerator denominator : Nat} (hd : 0 < denominator) {m : Magnitude}
    (hm : m.Normal)
    (hvalue : (numerator : ℚ) / denominator = m.coefficient * (2 : ℚ) ^ m.exponent) :
    nearestBits numerator denominator =
      min (m.coefficient + (m.exponent + 1074).toNat * Nat.pow 2 52) infinityBits := by
  have hd' : (0 : ℚ) < denominator := by exact_mod_cast hd
  have hexponent := hm.exponent_eq hd hvalue
  have hn := hm.numerator_pos hd hvalue
  have hscaled : numerator * Nat.pow 2 (-m.exponent).toNat =
      m.coefficient * (denominator * Nat.pow 2 m.exponent.toNat) := by
    rw [two_zpow, mul_div_assoc', div_eq_div_iff hd'.ne' (by positivity)] at hvalue
    simp only [Nat.pow_eq]
    exact_mod_cast (by linarith :
      (numerator : ℚ) * 2 ^ (-m.exponent).toNat =
        m.coefficient * (denominator * 2 ^ m.exponent.toNat))
  rw [nearestBits, if_neg hn.ne']
  simp only [hexponent]
  rw [hscaled]
  congr 2
  exact roundQuotient_mul (Nat.mul_pos hd (Nat.pow_pos (by decide)))

namespace Magnitude

theorem normal_ofBits {bits : Nat} (hpos : bits ≠ 0) (hlt : bits < infinityBits) :
    (ofBits bits).Normal := by
  unfold infinityBits at hlt
  unfold ofBits
  simp only [Nat.pow_eq]
  split
  · constructor <;> dsimp only <;> omega
  · constructor <;> dsimp only <;> omega

theorem bits_ofBits {bits : Nat} (hlt : bits < infinityBits) :
    min ((ofBits bits).coefficient + ((ofBits bits).exponent + 1074).toNat * Nat.pow 2 52)
      infinityBits = bits := by
  unfold infinityBits at *
  unfold ofBits
  simp only [Nat.pow_eq]
  split
  · dsimp only
    omega
  · dsimp only
    omega

theorem value (m : Magnitude) :
    (m.numerator : ℚ) / m.denominator = m.coefficient * (2 : ℚ) ^ m.exponent := by
  rw [two_zpow, numerator, denominator]
  simp only [Nat.pow_eq, Nat.cast_mul, Nat.cast_pow, Nat.cast_ofNat]
  rw [mul_div_assoc]

end Magnitude

end RuleBook.Number

namespace RuleBook.Decimal

open RuleBook.Number

theorem denominator_pos (d : Decimal) : 0 < d.denominator := Nat.pow_pos (by decide)

private theorem two_mul_le_log2 {c : Nat} (hc : 0 < c) (k : Nat) :
    2 * k ≤ (c * Nat.pow 5 k).log2 := by
  have hpos : 0 < Nat.pow 5 k := Nat.pow_pos (by decide)
  have hpow : 2 ^ (2 * k) ≤ c * Nat.pow 5 k := by
    calc 2 ^ (2 * k) = (2 ^ 2) ^ k := pow_mul 2 2 k
      _ ≤ 5 ^ k := Nat.pow_le_pow_left (by decide) k
      _ ≤ c * 5 ^ k := Nat.le_mul_of_pos_left _ hc
  exact (Nat.le_log2 (Nat.mul_pos hc hpos).ne').2 hpow

theorem nearestBits_of_guards {d : Decimal} (hc : d.coefficient ≠ 0)
    (hhigh : d.exponent ≤ 400) (hlow : -3 * d.exponent ≤ (d.coefficient.log2 : Int) + 1080) :
    d.nearestBits = Number.nearestBits d.numerator d.denominator := by
  rw [nearestBits, if_neg hc, if_neg (by omega), if_neg (by omega)]

theorem nearestBits_exact {bits : Nat} (hpos : bits ≠ 0) (hlt : bits < infinityBits) :
    (exact (.ofBits bits)).nearestBits = bits := by
  have hnormal := Magnitude.normal_ofBits hpos hlt
  have hbits := Magnitude.bits_ofBits hlt
  generalize Magnitude.ofBits bits = m at *
  have hc := hnormal.pos
  have hle := hnormal.le
  unfold exact
  split
  · next he =>
    have hnumerator : 0 < m.numerator := Nat.mul_pos hc (Nat.pow_pos (by decide))
    rw [nearestBits_of_guards hnumerator.ne' (by simp) (by dsimp only; omega),
      nearestBits_eq (m := m) (denominator_pos _) hnormal]
    · exact hbits
    · rw [← m.value]
      have hneg : (-m.exponent).toNat = 0 := by omega
      simp [numerator, denominator, Magnitude.denominator, hneg]
  · next he =>
    obtain ⟨k, hk⟩ : ∃ k : Nat, m.exponent = -(k : Int) := ⟨(-m.exponent).toNat, by omega⟩
    have hcoefficient : 0 < m.coefficient * Nat.pow 5 k :=
      Nat.mul_pos hc (Nat.pow_pos (by decide))
    have hlog := two_mul_le_log2 hc k
    have hk' : (-m.exponent).toNat = k := by omega
    rw [hk', hk]
    rw [nearestBits_of_guards hcoefficient.ne' (by simp) (by dsimp only; omega),
      nearestBits_eq (m := m) (denominator_pos _) hnormal]
    · exact hbits
    · have hten : (10 : ℚ) ^ k = 5 ^ k * 2 ^ k := by rw [← mul_pow]; norm_num
      simp only [numerator, denominator, hk, zpow_neg, zpow_natCast, neg_neg, Int.toNat_natCast,
        Int.toNat_neg_natCast, Nat.pow_eq, Nat.cast_mul, Nat.cast_pow, Nat.cast_ofNat, hten]
      field_simp

/-- The shortest decimal of a double reads back as it. -/
theorem nearestBits_shortest (tie : Tie) {bits : Nat} (hlt : bits < infinityBits) :
    (shortest tie bits).nearestBits = bits := by
  unfold shortest
  by_cases hpos : bits = 0
  · rw [if_pos hpos, hpos]
    rfl
  · rw [if_neg hpos]
    cases hfound : (List.range 17).findSome? _ with
    | none => exact nearestBits_exact hpos hlt
    | some d =>
        obtain ⟨fewer, -, hfewer⟩ := List.exists_of_findSome?_eq_some hfound
        have hbits := List.find?_some hfewer
        simpa using hbits

theorem coefficient_shortest (tie : Tie) {bits : Nat} (hpos : bits ≠ 0)
    (hlt : bits < infinityBits) : (shortest tie bits).coefficient ≠ 0 := by
  intro hzero
  have hbits := nearestBits_shortest tie hlt
  rw [nearestBits, if_pos hzero] at hbits
  exact hpos hbits.symm

theorem shortest_zero (tie : Tie) {bits : Nat} (hlt : bits < infinityBits) :
    (shortest tie bits).coefficient ≠ 0 ∨ (shortest tie bits).exponent = 0 := by
  by_cases hpos : bits = 0
  · right
    rw [hpos]
    rfl
  · exact .inl (coefficient_shortest tie hpos hlt)

end RuleBook.Decimal
