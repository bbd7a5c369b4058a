import RuleBook.Proofs.Number.Text

/-!
# Decimal texts in any style

A style chooses between all digits and an exponent, and whether a whole number keeps a point.
None of this changes the value: the text of a finite double is a numeral of that double.
-/

namespace RuleBook

namespace Number

variable {numerator denominator factor : Nat}

theorem binaryExponent_mul (hn : 0 < numerator) (hd : 0 < denominator) (hf : 0 < factor) :
    binaryExponent (numerator * factor) (denominator * factor) =
      binaryExponent numerator denominator := by
  have hn' : (0 : ℚ) < numerator := by exact_mod_cast hn
  have hd' : (0 : ℚ) < denominator := by exact_mod_cast hd
  have hf' : (factor : ℚ) ≠ 0 := by exact_mod_cast hf.ne'
  obtain ⟨t, hlow, hhigh⟩ := exists_mem_Ico_zpow (div_pos hn' hd') (one_lt_two (α := ℚ))
  have hvalue : ((numerator * factor : Nat) : ℚ) / (denominator * factor : Nat) =
      numerator / denominator := by
    rw [Nat.cast_mul, Nat.cast_mul, mul_div_mul_right _ _ hf']
  rw [binaryExponent_eq hn hd hlow hhigh,
    binaryExponent_eq (Nat.mul_pos hn hf) (Nat.mul_pos hd hf) (hvalue ▸ hlow) (hvalue ▸ hhigh)]

private theorem roundQuotient_mul_right (hf : 0 < factor) :
    roundQuotient (numerator * factor) (denominator * factor) =
      roundQuotient numerator denominator := by
  have hrest (a : Nat) : 2 * (a * factor) = 2 * a * factor := (Nat.mul_assoc 2 a factor).symm
  simp only [roundQuotient, Nat.mul_div_mul_right _ _ hf, Nat.mul_mod_mul_right, hrest,
    Nat.mul_lt_mul_right hf]

theorem nearestBits_mul (hd : 0 < denominator) (hf : 0 < factor) :
    nearestBits (numerator * factor) (denominator * factor) =
      nearestBits numerator denominator := by
  by_cases hn : numerator = 0
  · simp [nearestBits, hn]
  · have hn' : 0 < numerator := Nat.pos_of_ne_zero hn
    have hmul : numerator * factor ≠ 0 := (Nat.mul_pos hn' hf).ne'
    simp only [nearestBits, if_neg hn, if_neg hmul, binaryExponent_mul hn' hd hf]
    rw [Nat.mul_right_comm numerator, Nat.mul_right_comm denominator,
      roundQuotient_mul_right hf]

end Number

namespace Decimal

theorem nearestBits_whole (c : Nat) : nearestBits ⟨c, 0⟩ = Number.nearestBits c 1 := by
  by_cases hc : c = 0
  · simp [nearestBits, Number.nearestBits, hc]
  · rw [nearestBits_of_guards hc (by simp) (by dsimp only; omega)]
    simp [numerator, denominator]

theorem toFloat_whole (n : Nat) : toFloat false ⟨n, 0⟩ = Number.ofInt n := by
  have hsign : decide ((n : Int) < 0) = false := by simp
  rw [toFloat, nearestBits_whole, Number.ofInt, Number.nearest, hsign, Int.natAbs_natCast]

theorem nearestBits_tenths (c : Nat) : nearestBits ⟨c * 10, -1⟩ = nearestBits ⟨c, 0⟩ := by
  by_cases hc : c = 0
  · simp [nearestBits, hc]
  · have hmul : c * 10 ≠ 0 := by omega
    rw [nearestBits_of_guards hmul (by simp) (by dsimp only; omega), nearestBits_whole]
    simpa [numerator, denominator] using
      @Number.nearestBits_mul c 1 10 (by decide) (by decide)

/-- A text of the decimal: digits, perhaps a point with more of them, perhaps an exponent. -/
inductive IsNumeral : Decimal → List Char → Prop
  | mk {whole fraction exponent : List Char} {e : Int} (hwhole : IsWhole whole)
      (hfraction : ∀ c ∈ fraction, c.isDigit = true) (hexponent : IsExponent exponent e) :
      IsNumeral ⟨Nat.ofDigitChars 10 (whole ++ fraction) 0, e - fraction.length⟩
        (whole ++ (pointed fraction ++ exponent))

theorem isExponent_signed (e : Int) :
    IsExponent ('e' :: (if e < 0 then '-' else '+') :: Nat.toDigits 10 e.natAbs) e := by
  have hvalue : Nat.ofDigitChars 10 (Nat.toDigits 10 e.natAbs) 0 = e.natAbs :=
    Nat.ofDigitChars_ten_toDigits
  split
  · next he =>
    have hminus := IsExponent.minus (.inl rfl) Nat.toDigits_ne_nil
      (isDigit_toDigits (n := e.natAbs))
    rwa [hvalue, show -(e.natAbs : Int) = e by omega] at hminus
  · next he =>
    have hplus := IsExponent.plus (.inl rfl) (.inr rfl) Nat.toDigits_ne_nil
      (isDigit_toDigits (n := e.natAbs))
    rwa [hvalue, show (e.natAbs : Int) = e by omega] at hplus

theorem isNumeral_scientificText (d : Decimal) : d.IsNumeral d.scientificText := by
  obtain ⟨first, rest, hdigits⟩ := List.exists_cons_of_ne_nil
    (Nat.toDigits_ne_nil (b := 10) (n := d.coefficient))
  have hall := isDigit_toDigits (n := d.coefficient)
  have hvalue : Nat.ofDigitChars 10 (Nat.toDigits 10 d.coefficient) 0 = d.coefficient :=
    Nat.ofDigitChars_ten_toDigits
  rw [hdigits] at hall hvalue
  have hwhole : IsWhole [first] :=
    ⟨by simp, by simpa using hall first (by simp), by simp⟩
  have hnumeral := IsNumeral.mk hwhole (fun c hc => hall c (List.mem_cons_of_mem _ hc))
    (isExponent_signed (d.exponent + ((first :: rest).length : Int) - 1))
  have hself : (⟨Nat.ofDigitChars 10 ([first] ++ rest) 0,
      d.exponent + ((first :: rest).length : Int) - 1 - rest.length⟩ : Decimal) = d := by
    rw [List.singleton_append, hvalue, List.length_cons]
    congr 1
    omega
  rw [hself] at hnumeral
  convert hnumeral using 1
  rw [scientificText, hdigits]
  cases rest <;> rfl

theorem isNumeral_plainText {d : Decimal} (hd : d.coefficient ≠ 0 ∨ d.exponent = 0) :
    d.spread.IsNumeral d.plainText := by
  obtain ⟨whole, fraction, htext, hwhole, hfraction, hspread⟩ := plainText_eq hd
  have hnumeral := IsNumeral.mk hwhole hfraction .none
  rwa [List.append_nil, Int.zero_sub, ← htext, ← hspread] at hnumeral

theorem isNumeral_plainText_tenths {d : Decimal} (hd : d.coefficient ≠ 0 ∨ d.exponent = 0)
    (he : 0 ≤ d.exponent) :
    IsNumeral ⟨d.spread.coefficient * 10, -1⟩ (d.plainText ++ ['.', '0']) := by
  obtain ⟨whole, fraction, htext, hwhole, -, hspread⟩ := plainText_eq hd
  have hnil : fraction = [] := by
    have hlength : d.spread.exponent = -(fraction.length : Int) := by rw [hspread]
    simp only [spread] at hlength
    exact List.eq_nil_of_length_eq_zero (by omega)
  subst hnil
  have hnumeral := @IsNumeral.mk whole ['0'] [] 0 hwhole (by decide) .none
  have hcoefficient : d.spread.coefficient = Nat.ofDigitChars 10 whole 0 := by simp [hspread]
  rw [htext, hcoefficient]
  convert hnumeral using 1
  · simp [Nat.ofDigitChars_append, Nat.ofDigitChars_cons, Nat.mul_comm]
  · simp [pointed]

theorem exists_isNumeral (style : DecimalStyle) {d : Decimal}
    (hd : d.coefficient ≠ 0 ∨ d.exponent = 0) (hfinite : d.nearestBits < Number.infinityBits) :
    ∃ shown : Decimal, shown.IsNumeral (style.decimalText d) ∧ shown.nearestBits = d.nearestBits := by
  rw [DecimalStyle.decimalText]
  split
  · split
    · next hwhole =>
      refine ⟨_, isNumeral_plainText_tenths hd hwhole.2, ?_⟩
      have hspread : d.spread = ⟨d.spread.coefficient, 0⟩ := by
        have he := hwhole.2
        simp only [spread, mk.injEq, true_and]
        omega
      rw [nearestBits_tenths, ← hspread, nearestBits_spread hfinite]
    · exact ⟨_, isNumeral_plainText hd, nearestBits_spread hfinite⟩
  · exact ⟨d, isNumeral_scientificText d, rfl⟩

end Decimal

theorem DecimalStyle.exists_isNumeral_text (style : DecimalStyle) {x : Float}
    (hx : Number.isFinite x = true) :
    ∃ (shown : Decimal) (digits : List Char), shown.IsNumeral digits ∧
      style.text x = (if Number.isNegative x then ['-'] else []) ++ digits ∧
      shown.toFloat (Number.isNegative x) = x := by
  have hlt : Number.magnitudeBits x < Number.infinityBits := of_decide_eq_true hx
  have hbits := Decimal.nearestBits_shortest style.tie hlt
  obtain ⟨shown, hnumeral, hshown⟩ := Decimal.exists_isNumeral style
    (Decimal.shortest_zero style.tie hlt) (by rwa [hbits])
  refine ⟨shown, _, hnumeral, ?_, ?_⟩
  · rw [DecimalStyle.text]
    cases Number.isNegative x <;> rfl
  · rw [Decimal.toFloat, hshown, hbits, Number.ofSignAndBits_self]

end RuleBook
