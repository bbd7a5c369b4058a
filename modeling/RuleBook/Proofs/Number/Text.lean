import RuleBook.Proofs.Number.Rounding
import RuleBook.Proofs.Text.Run

/-!
# Plain decimal texts

A decimal is laid out as a whole part without superfluous zeros and, after a point, the
digits of its fraction.  Such a text reads as the same value, so a finite double is
read back from its shortest plain text.
-/

namespace RuleBook

namespace Decimal

structure IsWhole (digits : List Char) : Prop where
  ne_nil : digits ≠ []
  all : ∀ c ∈ digits, c.isDigit = true
  lead : digits.head? = some '0' → digits = ['0']

theorem IsWhole.exists_cons {digits : List Char} (h : IsWhole digits) :
    ∃ c more, digits = c :: more ∧ c.isDigit = true := by
  obtain ⟨c, more, rfl⟩ := List.exists_cons_of_ne_nil h.ne_nil
  exact ⟨c, more, rfl, h.all c (by simp)⟩

def pointed (fraction : List Char) : List Char :=
  if fraction = [] then [] else '.' :: fraction

inductive IsExponent : List Char → Int → Prop
  | none : IsExponent [] 0
  | plus {mark : Char} {sign digits : List Char} (hmark : mark = 'e' ∨ mark = 'E')
      (hsign : sign = [] ∨ sign = ['+']) (hne : digits ≠ [])
      (hdigits : ∀ c ∈ digits, c.isDigit = true) :
      IsExponent (mark :: (sign ++ digits)) (Nat.ofDigitChars 10 digits 0)
  | minus {mark : Char} {digits : List Char} (hmark : mark = 'e' ∨ mark = 'E')
      (hne : digits ≠ []) (hdigits : ∀ c ∈ digits, c.isDigit = true) :
      IsExponent (mark :: '-' :: digits) (-Nat.ofDigitChars 10 digits 0)

theorem isDigit_toDigits {n : Nat} : ∀ c ∈ Nat.toDigits 10 n, c.isDigit = true :=
  fun _ hc => Nat.isDigit_of_mem_toDigits (by decide) (by decide) hc

private theorem digitChar_eq_zero {n : Nat} (hn : n < 10) : n.digitChar = '0' ↔ n = 0 := by
  revert n
  decide

private theorem head?_toDigits {n : Nat} (hn : n ≠ 0) :
    (Nat.toDigits 10 n).head? ≠ some '0' := by
  induction n using Nat.strongRecOn with
  | _ n ih =>
      by_cases hlt : n < 10
      · rw [Nat.toDigits_of_lt_base hlt, List.head?_cons]
        intro h
        exact hn ((digitChar_eq_zero hlt).1 (Option.some.inj h))
      · rw [Nat.toDigits_of_base_le (by decide) (by omega),
          List.head?_append_of_ne_nil _ Nat.toDigits_ne_nil]
        exact ih (n / 10) (by omega) (by omega)

theorem isWhole_toDigits (n : Nat) : IsWhole (Nat.toDigits 10 n) where
  ne_nil := Nat.toDigits_ne_nil
  all := isDigit_toDigits
  lead h := by
    by_cases hn : n = 0
    · rw [hn]
      rfl
    · exact absurd h (head?_toDigits hn)

private theorem toDigits_digit {c : Char} (h : c.isDigit = true) :
    Nat.toDigits 10 (Nat.ofDigitChars 10 [c] 0) = [c] :=
  Text.forall_isDigit (P := fun c => Nat.toDigits 10 (Nat.ofDigitChars 10 [c] 0) = [c])
    (by decide) h

private theorem ofDigitChars_digit_lt {c : Char} (h : c.isDigit = true) :
    Nat.ofDigitChars 10 [c] 0 < 10 :=
  Text.forall_isDigit (P := fun c => Nat.ofDigitChars 10 [c] 0 < 10) (by decide) h

theorem IsWhole.toDigits_eq {digits : List Char} (h : IsWhole digits) :
    Nat.toDigits 10 (Nat.ofDigitChars 10 digits 0) = digits := by
  induction digits using List.reverseRecOn with
  | nil => exact absurd rfl h.ne_nil
  | append_singleton front c ih =>
      obtain ⟨hfront, hc⟩ := List.forall_mem_append.1 h.all
      rw [List.forall_mem_singleton] at hc
      by_cases hne : front = []
      · subst hne
        exact toDigits_digit hc
      · -- The front has no zero in front either, so it stands for a positive number.
        have hlead : front.head? ≠ some '0' := by
          intro hzero
          have hwhole := h.lead (by rw [List.head?_append_of_ne_nil _ hne, hzero])
          have hlength := congrArg List.length hwhole
          rw [List.length_append] at hlength
          exact hne (List.length_eq_zero_iff.1 (by simpa using hlength))
        have hdigits := ih ⟨hne, hfront, fun hzero => absurd hzero hlead⟩
        have hpos : 0 < Nat.ofDigitChars 10 front 0 := by
          rw [Nat.pos_iff_ne_zero]
          intro hzero
          rw [hzero] at hdigits
          exact hlead (by rw [← hdigits]; rfl)
        have hvalue : Nat.ofDigitChars 10 (front ++ [c]) 0 =
            10 * Nat.ofDigitChars 10 front 0 + Nat.ofDigitChars 10 [c] 0 := by
          rw [Nat.ofDigitChars_append, Nat.ofDigitChars_eq_ofDigitChars_zero]
          simp
        rw [hvalue, ← Nat.toDigits_append_toDigits (by decide) hpos (ofDigitChars_digit_lt hc),
          hdigits, toDigits_digit hc]

def spread (d : Decimal) : Decimal :=
  ⟨d.coefficient * 10 ^ d.exponent.toNat, -((-d.exponent).toNat : Int)⟩

theorem nearestBits_spread {d : Decimal} (h : d.nearestBits < Number.infinityBits) :
    d.spread.nearestBits = d.nearestBits := by
  by_cases hneg : d.exponent ≤ 0
  · have hself : d.spread = d := by
      obtain ⟨c, e⟩ := d
      have hz : e.toNat = 0 := by
        dsimp only at hneg
        omega
      simp only [spread, hz, Nat.pow_zero, Nat.mul_one, mk.injEq, true_and]
      dsimp only at hneg
      omega
    rw [hself]
  · have hzero : (-d.exponent).toNat = 0 := by omega
    have hpow : 0 < 10 ^ d.exponent.toNat := Nat.pow_pos (by decide)
    by_cases hc : d.coefficient = 0
    · simp [nearestBits, spread, hc]
    · have hle : ¬400 < d.exponent := by
        intro hlt
        rw [nearestBits, if_neg hc, if_pos hlt] at h
        exact Nat.lt_irrefl _ h
      have hc' : d.coefficient * 10 ^ d.exponent.toNat ≠ 0 := Nat.mul_ne_zero hc hpow.ne'
      rw [nearestBits_of_guards hc (by omega) (by omega),
        nearestBits_of_guards hc' (by simp only [spread]; omega) (by simp only [spread]; omega)]
      simp [numerator, denominator, spread, hzero]

private theorem isWhole_append_zeros {n : Nat} (hn : n ≠ 0) (count : Nat) :
    IsWhole (Nat.toDigits 10 n ++ List.replicate count '0') where
  ne_nil := by simp
  all c hc := by
    rcases List.mem_append.1 hc with hc | hc
    · exact isDigit_toDigits c hc
    · obtain rfl := List.eq_of_mem_replicate hc
      rfl
  lead h := by
    rw [List.head?_append_of_ne_nil _ Nat.toDigits_ne_nil] at h
    exact absurd h (head?_toDigits hn)

def paddedDigits (n places : Nat) : List Char :=
  List.replicate (places + 1 - (Nat.toDigits 10 n).length) '0' ++ Nat.toDigits 10 n

private theorem lt_length_paddedDigits (n places : Nat) :
    places < (paddedDigits n places).length := by
  simp only [paddedDigits, List.length_append, List.length_replicate]
  omega

private theorem isDigit_paddedDigits (n places : Nat) :
    ∀ c ∈ paddedDigits n places, c.isDigit = true := by
  intro c hc
  rcases List.mem_append.1 hc with hc | hc
  · obtain rfl := List.eq_of_mem_replicate hc
    rfl
  · exact isDigit_toDigits c hc

private theorem ofDigitChars_paddedDigits (n places : Nat) :
    Nat.ofDigitChars 10 (paddedDigits n places) 0 = n := by
  simp [paddedDigits, Nat.ofDigitChars_append, Nat.ofDigitChars_ten_toDigits]

private theorem isWhole_take_paddedDigits {n : Nat} (hn : n ≠ 0) (places : Nat) :
    IsWhole ((paddedDigits n places).take ((paddedDigits n places).length - places)) where
  ne_nil hnil := by
    have := lt_length_paddedDigits n places
    have := congrArg List.length hnil
    simp only [List.length_take, List.length_nil] at this
    omega
  all c hc := isDigit_paddedDigits n places c (List.mem_of_mem_take hc)
  lead hlead := by
    have hlength := lt_length_paddedDigits n places
    by_cases hshort : (Nat.toDigits 10 n).length ≤ places
    · have hone : (paddedDigits n places).length - places = 1 := by
        simp only [paddedDigits, List.length_append, List.length_replicate]
        omega
      rw [hone] at hlead ⊢
      cases hpadded : paddedDigits n places with
      | nil => simp [hpadded] at hlength
      | cons c rest => simpa [hpadded] using hlead
    · have hpadded : paddedDigits n places = Nat.toDigits 10 n := by
        rw [paddedDigits, show places + 1 - (Nat.toDigits 10 n).length = 0 by omega]
        rfl
      rw [List.head?_take, if_neg (by omega), hpadded] at hlead
      exact absurd hlead (head?_toDigits hn)

theorem plainText_eq {d : Decimal} (hd : d.coefficient ≠ 0 ∨ d.exponent = 0) :
    ∃ whole fraction, d.plainText = whole ++ pointed fraction ∧ IsWhole whole ∧
      (∀ c ∈ fraction, c.isDigit = true) ∧
      d.spread = ⟨Nat.ofDigitChars 10 (whole ++ fraction) 0, -(fraction.length : Int)⟩ := by
  rw [plainText]
  split
  · next he =>
    have hzero : (-d.exponent).toNat = 0 := by omega
    have hwhole : IsWhole (Nat.toDigits 10 d.coefficient ++
        List.replicate d.exponent.toNat '0') := by
      rcases hd with hc | he0
      · exact isWhole_append_zeros hc _
      · simpa [he0] using isWhole_toDigits d.coefficient
    refine ⟨_, [], by simp [pointed], hwhole, by simp, ?_⟩
    simp [spread, hzero, Nat.ofDigitChars_append, Nat.ofDigitChars_ten_toDigits, Nat.mul_comm]
  · next he =>
    have hc : d.coefficient ≠ 0 := hd.resolve_right (by omega)
    have hzero : d.exponent.toNat = 0 := by omega
    have hplaces : 0 < (-d.exponent).toNat := by omega
    generalize hp : (-d.exponent).toNat = places at hplaces ⊢
    let padded := paddedDigits d.coefficient places
    have hlength : places < padded.length := lt_length_paddedDigits d.coefficient places
    have hfraction : (padded.drop (padded.length - places)).length = places := by
      rw [List.length_drop]
      omega
    refine ⟨padded.take (padded.length - places), padded.drop (padded.length - places), ?_,
      isWhole_take_paddedDigits hc places,
      fun c hmem => isDigit_paddedDigits _ places c (List.mem_of_mem_drop hmem), ?_⟩
    · have hne : padded.drop (padded.length - places) ≠ [] := by
        intro hnil
        rw [hnil] at hfraction
        exact hplaces.ne hfraction
      rw [pointed, if_neg hne]
      rfl
    · rw [List.take_append_drop, hfraction, ofDigitChars_paddedDigits, spread, hzero, hp,
        Nat.pow_zero, Nat.mul_one]

theorem takeSign_digit {c : Char} (h : c.isDigit = true) (text : List Char) :
    takeSign (c :: text) = (false, c :: text) := by
  have hc : c ≠ '-' ∧ c ≠ '+' :=
    Text.forall_isDigit (P := fun c => c ≠ '-' ∧ c ≠ '+') (by decide) h
  unfold takeSign
  split <;> simp_all

theorem IsExponent.readExponent?_eq {exponent : List Char} {e : Int} (h : IsExponent exponent e) :
    readExponent? exponent = some e := by
  have htake : ∀ digits : List Char, digits ≠ [] → (∀ c ∈ digits, c.isDigit = true) →
      takeSign digits = (false, digits) := by
    intro digits hne hdigits
    obtain ⟨c, more, rfl⟩ := List.exists_cons_of_ne_nil hne
    exact takeSign_digit (hdigits c (by simp)) more
  cases h with
  | none => rfl
  | @plus mark sign digits hmark hsign hne hdigits =>
      have hsigned : takeSign (sign ++ digits) = (false, digits) := by
        rcases hsign with rfl | rfl
        · exact htake digits hne hdigits
        · rfl
      rw [readExponent?, if_pos hmark, hsigned]
      simpa [hne] using hdigits
  | @minus mark digits hmark hne hdigits =>
      rw [readExponent?, if_pos hmark, takeSign]
      simpa [hne] using hdigits

theorem IsExponent.head {exponent : List Char} {e : Int} (h : IsExponent exponent e) :
    ∀ c ∈ exponent.head?, c = 'e' ∨ c = 'E' := by
  intro c hc
  cases h with
  | none => cases hc
  | plus hmark => exact Option.some.inj hc ▸ hmark
  | minus hmark => exact Option.some.inj hc ▸ hmark

theorem ofText?_numeral {whole fraction exponent : List Char} {e : Int} (hwhole : IsWhole whole)
    (hfraction : ∀ c ∈ fraction, c.isDigit = true) (hexponent : IsExponent exponent e) :
    ofText? (whole ++ (pointed fraction ++ exponent)) =
      some ⟨Nat.ofDigitChars 10 (whole ++ fraction) 0, e - fraction.length⟩ := by
  have hmark : ∀ c ∈ exponent.head?, c.isDigit = false ∧ c ≠ '.' := fun c hc => by
    rcases hexponent.head c hc with rfl | rfl <;> decide
  have hspan : (whole ++ (pointed fraction ++ exponent)).span Char.isDigit =
      (whole, pointed fraction ++ exponent) := by
    refine Text.span_append hwhole.all ?_
    unfold pointed
    split
    · exact fun c hc => (hmark c hc).1
    · simp
  rw [ofText?, hspan]
  by_cases hnil : fraction = []
  · rw [pointed, if_pos hnil, List.nil_append]
    have hread := hexponent.readExponent?_eq
    cases exponent with
    | nil => simp [hnil, hwhole.ne_nil, hread]
    | cons mark digits =>
        rcases hexponent.head mark rfl with rfl | rfl <;> simp [hnil, hwhole.ne_nil, hread]
  · have hinner : (fraction ++ exponent).span Char.isDigit = (fraction, exponent) :=
      Text.span_append hfraction fun c hc => (hmark c hc).1
    simp only [pointed, if_neg hnil, List.cons_append, hinner]
    simp [hwhole.ne_nil, hexponent.readExponent?_eq]

end Decimal

namespace Number

private theorem toLower_of_isDigit {c : Char} (h : c.isDigit = true) :
    c.toLower = c ∧ c ≠ 'i' ∧ c ≠ 'n' :=
  Text.forall_isDigit (P := fun c => c.toLower = c ∧ c ≠ 'i' ∧ c ≠ 'n') (by decide) h

theorem ofText?_numeral {whole fraction exponent : List Char} {e : Int}
    (hwhole : Decimal.IsWhole whole) (hfraction : ∀ c ∈ fraction, c.isDigit = true)
    (hexponent : Decimal.IsExponent exponent e) (negative : Bool) :
    ofText? ((if negative then ['-'] else []) ++
        (whole ++ (Decimal.pointed fraction ++ exponent))) =
      some (Decimal.toFloat negative
        ⟨Nat.ofDigitChars 10 (whole ++ fraction) 0, e - fraction.length⟩) := by
  cases hcons : whole with
  | nil => exact absurd hcons hwhole.ne_nil
  | cons c digits =>
      have hdigit := hwhole.all c (by simp [hcons])
      have hc := toLower_of_isDigit hdigit
      have hsign : Decimal.takeSign ((if negative then ['-'] else []) ++
          (c :: digits ++ (Decimal.pointed fraction ++ exponent))) =
          (negative, c :: digits ++ (Decimal.pointed fraction ++ exponent)) := by
        cases negative with
        | false => exact Decimal.takeSign_digit hdigit _
        | true => rfl
      have hvalue := Decimal.ofText?_numeral hwhole hfraction hexponent
      rw [hcons] at hvalue
      rw [ofText?, hsign]
      simp only [List.cons_append, List.map_cons, hc.1] at hvalue ⊢
      rw [if_neg (by simp [hc.2.1]), if_neg (by simp [hc.2.2]), hvalue]
      rfl

theorem ofText?_parts {whole fraction : List Char} (hwhole : Decimal.IsWhole whole)
    (hfraction : ∀ c ∈ fraction, c.isDigit = true) (negative : Bool) :
    ofText? ((if negative then ['-'] else []) ++ (whole ++ Decimal.pointed fraction)) =
      some (Decimal.toFloat negative
        ⟨Nat.ofDigitChars 10 (whole ++ fraction) 0, -(fraction.length : Int)⟩) := by
  have hparts := ofText?_numeral hwhole hfraction .none negative
  rwa [List.append_nil, Int.zero_sub] at hparts

/-- What a plain text of a finite double looks like, and that it reads as the double. -/
theorem text_eq (tie : Decimal.Tie) {x : Float} (hx : isFinite x = true) :
    ∃ whole fraction, Decimal.IsWhole whole ∧ (∀ c ∈ fraction, c.isDigit = true) ∧
      DecimalStyle.text ⟨tie, none, false⟩ x =
        (if isNegative x then ['-'] else []) ++ (whole ++ Decimal.pointed fraction) ∧
      ofText? (DecimalStyle.text ⟨tie, none, false⟩ x) = some x := by
  have hlt : magnitudeBits x < infinityBits := of_decide_eq_true hx
  have hbits := Decimal.nearestBits_shortest tie hlt
  obtain ⟨whole, fraction, htext, hwhole, hfraction, hspread⟩ :=
    Decimal.plainText_eq (Decimal.shortest_zero tie hlt)
  have hshape : DecimalStyle.text ⟨tie, none, false⟩ x =
      (if isNegative x then ['-'] else []) ++ (whole ++ Decimal.pointed fraction) := by
    simp only [DecimalStyle.text, DecimalStyle.decimalText, DecimalStyle.isPlain, htext]
    cases isNegative x <;> simp
  refine ⟨whole, fraction, hwhole, hfraction, hshape, ?_⟩
  rw [hshape, ofText?_parts hwhole hfraction, ← hspread, Decimal.toFloat,
    Decimal.nearestBits_spread (by rw [hbits]; exact hlt), hbits, ofSignAndBits_self]

end Number

end RuleBook
