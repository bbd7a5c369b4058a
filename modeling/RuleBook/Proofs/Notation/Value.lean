import RuleBook.Proofs.Notation.Escape
import RuleBook.Proofs.Notation.Regex
import RuleBook.Proofs.Notation.Scalar

/-!
# Values

The alternatives for a value are tried in order.  The first character of a written value
rules out all alternatives before the one it was written for, except for numbers and
dates, which are told apart by their inside.
-/

namespace RuleBook.Notation

open Reader Form

section

variable {p : Reader Built} {text rest : List Char} {a : Built}

theorem read_scalar (p : Reader Built) (text : List Char) :
    read (scalar p) text = (read p text).bind fun found =>
      (read valueEnd found.2).map fun _ => found := by
  rw [scalar, read_bind]
  congr 1
  funext found
  rw [read_bind, read_ahead]
  cases read valueEnd found.2 <;> rfl

theorem read_scalar_none (h : read p text = none) : read (scalar p) text = none := by
  rw [read_scalar, h]
  rfl

theorem read_scalar_some (h : read p text = some (a, rest)) (hrest : MayEnd rest) :
    read (scalar p) text = some (a, rest) := by
  obtain ⟨found, hfound⟩ := Option.isSome_iff_exists.1 hrest
  rw [read_scalar, h, Option.bind_some, hfound]
  rfl

theorem read_scalar_inv (h : read (scalar p) text = some (a, rest)) :
    read p text = some (a, rest) ∧ MayEnd rest := by
  rw [read_scalar] at h
  obtain ⟨found, hfound, hend⟩ := Option.bind_eq_some_iff.1 h
  obtain ⟨_, hvalueEnd, rfl⟩ := Option.map_eq_some_iff.1 hend
  exact ⟨hfound, by simp [MayEnd, hvalueEnd]⟩

end

def extension (fuel : Nat) : Reader Built :=
  firstOf (scalar regexValue)
    [scalar (Except.map Literal.number <$> hexNumber),
      scalar ((fun text => .ok (dateOf text)) <$> token dateForm),
      scalar (Except.map Literal.number <$> arithmetic fuel)]

def relaxed (inner : Reader Built) : Reader Built :=
  firstOf (object inner)
    [array inner,
      (fun text => .ok (.string (String.ofList text))) <$> stringText,
      scalar ((fun text => .ok (constantOf text)) <$> token constantForm),
      scalar ((fun x => .ok (.number x)) <$> number),
      (fun text => .ok (plainOf text)) <$> token plainForm]

theorem read_value (fuel : Nat) (text : List Char) :
    read (value (fuel + 1)) text =
      (read (extension (fuel + 1)) text).or (read (relaxed (value fuel)) text) := by
  simp only [value, extension, relaxed, firstOf, List.foldl_cons, List.foldl_nil, read_orElse,
    Option.or_assoc]

theorem read_hexNumber_cons {c : Char} (h : c ≠ '-' ∧ c ≠ '0') (text : List Char) :
    read hexNumber (c :: text) = none := by
  simp [hexNumber, hexForm_cons_none h]

theorem read_number_cons {c : Char} (h : beginsNumber c = false) (text : List Char) :
    read number (c :: text) = none := by
  simp [number, numberForm_cons_none h]

section

variable {c : Char}

private theorem beginsArithmetic_cases (h : beginsArithmetic c = false) :
    beginsNumber c = false ∧ c ≠ '-' ∧ c ≠ '0' ∧ c ≠ '(' ∧ c ≠ '+' ∧ c ≠ 'i' ∧ c ≠ 'N' := by
  simp only [beginsArithmetic, Bool.or_eq_false_iff] at h
  obtain ⟨hdigit, hsign⟩ := h
  simp only [List.contains_eq_mem, decide_eq_false_iff_not] at hsign
  have hne : c ≠ '+' ∧ c ≠ '-' ∧ c ≠ 'i' ∧ c ≠ 'N' ∧ c ≠ '(' := by simpa using hsign
  refine ⟨by simp [beginsNumber, hdigit, hne], hne.2.1, ?_, hne.2.2.2.2, hne.1, hne.2.2.1,
    hne.2.2.2.1⟩
  rintro rfl
  cases hdigit

theorem beginsNumber_of_beginsArithmetic (h : beginsArithmetic c = false) :
    beginsNumber c = false := (beginsArithmetic_cases h).1

theorem beginsArithmetic_ne (h : beginsArithmetic c = false) : c ≠ '-' ∧ c ≠ '0' :=
  ⟨(beginsArithmetic_cases h).2.1, (beginsArithmetic_cases h).2.2.1⟩

theorem read_minus_cons (h : c ≠ '-') (text : List Char) : read minus (c :: text) = none := by
  unfold minus
  rw [read_token]
  split
  · next heq => exact absurd (List.cons.inj heq).1 h
  · rfl

theorem read_factor_cons (h : beginsArithmetic c = false)
    (inner : Reader (Except ParseError Float)) (text : List Char) :
    read (factor inner) (c :: text) = none := by
  obtain ⟨hnumber, hminus, hzero, hgroup, -⟩ := beginsArithmetic_cases h
  simp [factor, read_minus_cons hminus, firstOf, read_char_cons, hgroup, read_hexNumber_cons ⟨hminus, hzero⟩,
    read_number_cons hnumber]

theorem read_sum_cons (h : beginsArithmetic c = false) (fuel : Nat) (text : List Char) :
    read (sum fuel) (c :: text) = none := by
  cases fuel with
  | zero => rfl
  | succ fuel => simp [sum, chain, read_factor_cons h]

theorem read_arithmetic (fuel : Nat) (text : List Char) :
    read (arithmetic fuel) text =
      ((specialForm text).map fun found => (.ok (specialOf found.1), found.2)).or
        (if ((read number text).bind fun found => read valueEnd found.2).isSome then none
          else read (sum fuel) text) := by
  rw [arithmetic, read_rule, read_orElse, read_map, read_token]
  congr 1
  rw [read_bind, read_notAhead, read_bind]
  split <;> rfl

theorem read_arithmetic_cons (h : beginsArithmetic c = false) (fuel : Nat) (text : List Char) :
    read (arithmetic fuel) (c :: text) = none := by
  obtain ⟨hnumber, hminus, hzero, hgroup, hplus, hi, hn⟩ := beginsArithmetic_cases h
  rw [read_arithmetic, specialForm_cons_none ⟨hplus, hminus, hi, hn⟩, read_number_cons hnumber,
    read_sum_cons h]
  rfl

theorem read_extension_cons (h : c ≠ '/' ∧ beginsArithmetic c = false) (fuel : Nat)
    (text : List Char) : read (extension fuel) (c :: text) = none := by
  obtain ⟨hslash, harith⟩ := h
  obtain ⟨hnumber, hminus, hzero, -⟩ := beginsArithmetic_cases harith
  have hdigit : c.isDigit = false := by
    simp only [beginsNumber, Bool.or_eq_false_iff] at hnumber
    exact hnumber.1
  simp [extension, firstOf, read_scalar, read_regexValue_cons hslash,
    read_hexNumber_cons ⟨hminus, hzero⟩, dateForm_cons_none hdigit, read_arithmetic_cons harith]

theorem read_object_cons (h : c ≠ '\x7b') (inner : Reader Built) (text : List Char) :
    read (object inner) (c :: text) = none := by
  simp [object, members, read_char_cons, h]

theorem read_array_cons (h : c ≠ '[') (inner : Reader Built) (text : List Char) :
    read (array inner) (c :: text) = none := by
  simp [array, members, read_char_cons, h]

theorem plainForm_cons (h : ":,\x7b\x7d[]\"\'".toList.contains c = true) (text : List Char) :
    plainForm (c :: text) = none := by
  rw [plainForm, if_pos h]

end

@[simp] theorem read_value_nil (fuel : Nat) : read (value fuel) [] = none := by
  cases fuel <;> rfl

theorem read_relaxed_cons {c : Char} (h : c ≠ '\x7b' ∧ c ≠ '[' ∧ c ≠ '"' ∧ c ≠ '\'')
    (inner : Reader Built) (text : List Char) :
    read (relaxed inner) (c :: text) =
      (read (scalar ((fun text => .ok (constantOf text)) <$> token constantForm))
        (c :: text)).or
      ((read (scalar ((fun x => .ok (.number x)) <$> number)) (c :: text)).or
        (read ((fun text => .ok (plainOf text)) <$> token plainForm) (c :: text))) := by
  obtain ⟨hbrace, hbracket, hquote, hsingle⟩ := h
  simp only [relaxed, firstOf, List.foldl_cons, List.foldl_nil, read_orElse,
    read_object_cons hbrace, read_array_cons hbracket, read_map (fun text : List Char => _) stringText,
    read_stringText_cons ⟨hquote, hsingle⟩, Option.map_none, Option.none_or, Option.or_assoc]

section

variable {rest : List Char} (fuel : Nat)

private theorem read_value_constant {w : String} {c : Char} {more : List Char}
    (hw : w.toList = c :: more) (hc : c = 't' ∨ c = 'f' ∨ c = 'n')
    (hform : constantForm (w.toList ++ rest) = some (w.toList, rest)) (hrest : MayEnd rest) :
    read (value (fuel + 1)) (w.toList ++ rest) = some (.ok (constantOf w.toList), rest) := by
  have hextension : read (extension (fuel + 1)) (w.toList ++ rest) = none := by
    rw [hw]
    exact read_extension_cons (by rcases hc with rfl | rfl | rfl <;> decide) _ _
  have hconstant : read (scalar ((fun text => .ok (constantOf text)) <$> token constantForm))
      (w.toList ++ rest) = some (.ok (constantOf w.toList), rest) :=
    read_scalar_some (by simp [hform]) hrest
  rw [read_value, hextension, Option.none_or]
  rw [hw] at hconstant ⊢
  rw [List.cons_append] at hconstant ⊢
  rw [read_relaxed_cons (by rcases hc with rfl | rfl | rfl <;> decide), hconstant, Option.some_or]

theorem read_value_null (hrest : MayEnd rest) :
    read (value (fuel + 1)) ("null".toList ++ rest) = some (.ok .null, rest) :=
  read_value_constant fuel rfl (.inr (.inr rfl)) rfl hrest

theorem read_value_true (hrest : MayEnd rest) :
    read (value (fuel + 1)) ("true".toList ++ rest) = some (.ok (.bool true), rest) :=
  read_value_constant fuel rfl (.inl rfl) rfl hrest

theorem read_value_false (hrest : MayEnd rest) :
    read (value (fuel + 1)) ("false".toList ++ rest) = some (.ok (.bool false), rest) :=
  read_value_constant fuel rfl (.inr (.inl rfl)) rfl hrest

private theorem read_value_special {w : String} {c : Char} {more : List Char}
    (hw : w.toList = c :: more) (hc : c = '+' ∨ c = '-' ∨ c = 'N')
    (hspecial : specialForm (w.toList ++ rest) = some (w.toList, rest))
    (hhex : hexForm (w.toList ++ rest) = none) (hrest : MayEnd rest) :
    read (value (fuel + 1)) (w.toList ++ rest) =
      some (.ok (.number (specialOf w.toList)), rest) := by
  have hregex : read regexValue (w.toList ++ rest) = none := by
    rw [hw]
    exact read_regexValue_cons (by rcases hc with rfl | rfl | rfl <;> decide) _
  have hdate : dateForm (w.toList ++ rest) = none := by
    rw [hw]
    exact dateForm_cons_none (by rcases hc with rfl | rfl | rfl <;> decide) _
  have harith : read (scalar (Except.map Literal.number <$> arithmetic (fuel + 1)))
      (w.toList ++ rest) = some (.ok (.number (specialOf w.toList)), rest) :=
    read_scalar_some (by rw [read_map, read_arithmetic, hspecial]; rfl) hrest
  rw [read_value]
  simp [extension, firstOf, harith, read_scalar, hregex, hexNumber, hhex, hdate]

theorem read_value_numeral (negative : Bool) {whole fraction exponent : List Char} {e : Int}
    (hwhole : Decimal.IsWhole whole) (hfraction : ∀ c ∈ fraction, c.isDigit = true)
    (hexponent : Decimal.IsExponent exponent e) (hrest : MayEnd rest) :
    read (value (fuel + 1)) (plainNumber negative whole fraction ++ (exponent ++ rest)) =
      some (.ok (.number (numberOf (plainNumber negative whole fraction ++ exponent))), rest) := by
  have hnumber : read number (plainNumber negative whole fraction ++ (exponent ++ rest)) =
      some (numberOf (plainNumber negative whole fraction ++ exponent), rest) := by
    rw [number, read_map, read_token, numberForm_numeral hwhole hfraction hexponent
      hrest.endsNumeral]
    rfl
  obtain ⟨c, more, hcons, hc⟩ := plainNumber_cons negative hwhole fraction
  have hplain : c ≠ '/' ∧ c ≠ '\x7b' ∧ c ≠ '[' ∧ c ≠ '"' ∧ c ≠ '\'' ∧
      c ≠ 't' ∧ c ≠ 'f' ∧ c ≠ 'n' := by
    refine ⟨?_, ?_, ?_, ?_, ?_, ?_, ?_, ?_⟩ <;> rintro rfl <;> revert hc <;> decide
  obtain ⟨hslash, hbrace, hbracket, hquote, hsingle, hconstant⟩ := hplain
  have harith : read (arithmetic (fuel + 1))
      (plainNumber negative whole fraction ++ (exponent ++ rest)) = none := by
    have hend : (read valueEnd rest).isSome = true := hrest
    rw [read_arithmetic, specialForm_plainNumber hwhole, hnumber, Option.bind_some, if_pos hend]
    rfl
  have hextension : read (extension (fuel + 1))
      (plainNumber negative whole fraction ++ (exponent ++ rest)) = none := by
    have hregex : read regexValue (plainNumber negative whole fraction ++ (exponent ++ rest)) =
        none := by
      rw [hcons]
      exact read_regexValue_cons hslash _
    have hends := hrest.endsNumeral
    simp [extension, firstOf, read_scalar, hregex, hexNumber, hexForm_numeral hwhole hexponent hends,
      dateForm_numeral hwhole hexponent hends, harith]
  have hscalar := read_scalar_some (p := (fun x => .ok (.number x)) <$> number)
    (by rw [read_map, hnumber]; rfl) hrest
  rw [read_value, hextension, Option.none_or]
  rw [hcons, List.cons_append] at hscalar ⊢
  rw [read_relaxed_cons ⟨hbrace, hbracket, hquote, hsingle⟩, hscalar,
    read_scalar_none (by simp [constantForm_cons_none hconstant]), Option.none_or, Option.some_or]

theorem read_value_number (x : Float) (hrest : MayEnd rest) :
    read (value (fuel + 1)) (numberText x ++ rest) = some (.ok (.number x), rest) := by
  rcases numberText_cases x with ⟨htext, rfl⟩ | ⟨htext, rfl⟩ | ⟨htext, rfl⟩ |
    ⟨negative, whole, fraction, htext, hwhole, hfraction, hvalue⟩
  · rw [htext]
    exact read_value_special fuel rfl (.inr (.inr rfl)) rfl rfl hrest
  · rw [htext]
    exact read_value_special fuel rfl (.inr (.inl rfl)) rfl rfl hrest
  · rw [htext]
    exact read_value_special fuel rfl (.inl rfl) rfl rfl hrest
  · have hread := read_value_numeral fuel negative hwhole hfraction .none hrest
    rwa [List.append_nil, hvalue, List.nil_append, ← htext] at hread

theorem read_value_date {t : Instant} (hyear : 0 ≤ t.date.year ∧ t.date.year ≤ 9999)
    (hrest : AtEnd rest) :
    read (value (fuel + 1)) (t.shortText ++ rest) = some (.ok (.date t), rest) := by
  have hdate : read (scalar ((fun text => .ok (dateOf text)) <$> token dateForm))
      (t.shortText ++ rest) = some (.ok (.date t), rest) := by
    refine read_scalar_some ?_ hrest.mayEnd
    rw [read_map, read_token, dateForm_shortText hyear hrest, Option.map_some, dateOf,
      Instant.ofText?_shortText hyear]
  obtain ⟨c, d, more, hcons, hc, hd⟩ := shortText_begins hyear
  have hregex : read regexValue (t.shortText ++ rest) = none := by
    rw [hcons]
    refine read_regexValue_cons ?_ _
    rintro rfl
    cases hc
  have hhex : hexForm (t.shortText ++ rest) = none := by
    rw [hcons]
    exact hexForm_digits hc hd _
  rw [read_value]
  simp [extension, firstOf, hdate, read_scalar_none, hregex, hexNumber, hhex]

theorem read_value_regex {r : RegexLiteral} (h : r.IsWritable) (hrest : AtEnd rest)
    (hstands : r.Stands rest) :
    read (value (fuel + 1)) (regexText r.source.toList r.flags.toList ++ rest) =
      some (.ok (.regex r), rest) := by
  have hregex := read_scalar_some (read_regexValue_written h hrest hstands) hrest.mayEnd
  rw [read_value]
  simp [extension, firstOf, hregex]

theorem read_value_string (text : List Char) :
    read (value (fuel + 1)) ('"' :: text) = (read stringText ('"' :: text)).map fun found =>
      (.ok (.string (String.ofList found.1)), found.2) := by
  have hextension : read (extension (fuel + 1)) ('"' :: text) = none :=
    read_extension_cons (by decide) _ _
  have hconstant : constantForm ('"' :: text) = none := constantForm_cons_none (by decide) text
  have hnumber : read number ('"' :: text) = none := read_number_cons (by decide) text
  rw [read_value, hextension]
  simp [relaxed, firstOf, read_scalar, read_object_cons, read_array_cons, hconstant, hnumber,
    plainForm_cons]

theorem read_value_quote (s rest : List Char) :
    read (value (fuel + 1)) (quote s ++ rest) = some (.ok (.string (String.ofList s)), rest) := by
  have hstring := read_stringText_written s rest
  rw [quote, List.cons_append, List.cons_append] at hstring ⊢
  rw [read_value_string, hstring]
  rfl

end

end RuleBook.Notation
