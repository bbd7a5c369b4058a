import RuleBook.Proofs.Notation.Arithmetic
import RuleBook.Proofs.Notation.Document
import RuleBook.Proofs.Notation.Spacing
import RuleBook.Proofs.Number.Negation

/-!
# Arithmetic expressions

An expression is a tree of numbers, negations and operations.  It is written with blanks
around each operation and with parentheses only where an operand would be taken apart
without them, and its text reads as the value of the tree.
-/

namespace RuleBook.Notation

open Reader

/-! ## Texts and values -/

structure Numeral where
  whole : List Char
  fraction : List Char
  exponent : List Char
  shift : Int
  isWhole : Decimal.IsWhole whole
  isFraction : ∀ c ∈ fraction, c.isDigit = true
  isExponent : Decimal.IsExponent exponent shift

namespace Numeral

def decimal (n : Numeral) : Decimal :=
  ⟨Nat.ofDigitChars 10 (n.whole ++ n.fraction) 0, n.shift - n.fraction.length⟩

def text (negative : Bool) (n : Numeral) : List Char :=
  plainNumber negative n.whole n.fraction ++ n.exponent

theorem text_cons (n : Numeral) :
    ∃ c more, n.text false = c :: more ∧ c.isDigit = true := by
  obtain ⟨c, digits, hwhole, hc⟩ := n.isWhole.exists_cons
  exact ⟨c, digits ++ Decimal.pointed n.fraction ++ n.exponent,
    by simp [text, plainNumber, hwhole], hc⟩

end Numeral

namespace Operation

def symbol : Operation → Char
  | .add => '+'
  | .subtract => '-'
  | .multiply => '*'
  | .divide => '/'
  | .remainder => '%'

def level : Operation → Nat
  | .add => 0
  | .subtract => 0
  | .multiply => 1
  | .divide => 1
  | .remainder => 1

theorem level_cases (op : Operation) : op.level = 0 ∨ op.level = 1 := by
  cases op <;> decide

end Operation

structure Blanks where
  text : List Char
  ne_nil : text ≠ []
  isBlank : ∀ b ∈ text, b = ' ' ∨ b = '\t'

structure Spaced where
  operation : Operation
  before : Blanks
  behind : Blanks

def Spaced.text (op : Spaced) : List Char :=
  op.before.text ++ op.operation.symbol :: op.behind.text

def parenthesized (needed : Bool) (text : List Char) : List Char :=
  if needed then '(' :: (text ++ [')']) else text

inductive Expression where
  | number (n : Numeral)
  | negate (e : Expression)
  | binary (op : Spaced) (left right : Expression)

namespace Expression

/-- How tightly an expression holds together: a number most, then a negation. -/
def level : Expression → Nat
  | .number _ => 3
  | .negate _ => 2
  | .binary op _ _ => op.operation.level

/-- Operations group to the left, so only their right operand has to hold together tighter
than they do. -/
def text : Expression → List Char
  | .number n => n.text false
  | .negate e => '-' :: parenthesized (e.level < 3) e.text
  | .binary op left right =>
      parenthesized (left.level < op.operation.level) left.text ++
        (op.text ++ parenthesized (right.level < op.operation.level + 1) right.text)

/-- Bottom-up evaluation with the operations on doubles. -/
def value : Expression → Float
  | .number n => n.decimal.toFloat false
  | .negate e => -1.0 * e.value
  | .binary op left right =>
      match op.operation with
      | .add => left.value + right.value
      | .subtract => left.value - right.value
      | .multiply => left.value * right.value
      | .divide => left.value / right.value
      | .remainder => Number.remainder left.value right.value

/-- What the reader applies is the operation on doubles. -/
theorem value_binary (op : Spaced) (left right : Expression) :
    (binary op left right).value = op.operation.apply left.value right.value := by
  rw [value]
  cases op.operation <;> rfl

def textAt (needed : Nat) (e : Expression) : List Char :=
  parenthesized (e.level < needed) e.text

theorem textAt_of_le {needed : Nat} {e : Expression} (h : needed ≤ e.level) :
    e.textAt needed = e.text := by
  simp [textAt, parenthesized, Nat.not_lt.2 h]

theorem textAt_of_lt {needed : Nat} {e : Expression} (h : e.level < needed) :
    e.textAt needed = '(' :: (e.text ++ [')']) := by
  simp [textAt, parenthesized, h]

theorem textAt_succ {needed : Nat} {e : Expression} (h : e.level ≠ needed) :
    e.textAt (needed + 1) = e.textAt needed := by
  by_cases hlt : e.level < needed
  · rw [textAt_of_lt hlt, textAt_of_lt (by omega)]
  · rw [textAt_of_le (by omega), textAt_of_le (by omega)]

theorem text_negate (e : Expression) : (negate e).text = '-' :: e.textAt 3 := rfl

theorem text_binary (op : Spaced) (left right : Expression) :
    (binary op left right).text = left.textAt op.operation.level ++
      (op.text ++ right.textAt (op.operation.level + 1)) := rfl

theorem level_lt_or_number (e : Expression) : e.level < 3 ∨ ∃ n, e = .number n := by
  cases e with
  | number n => exact .inr ⟨n, rfl⟩
  | negate e => exact .inl (Nat.lt_succ_self 2)
  | binary op left right =>
      have hop := op.operation.level_cases
      refine .inl ?_
      rw [level]
      omega

/-! ## Where texts begin -/

theorem text_cons (e : Expression) :
    ∃ c more, e.text = c :: more ∧ beginsArithmetic c = true := by
  induction e with
  | number n =>
      obtain ⟨c, more, hcons, hc⟩ := n.text_cons
      exact ⟨c, more, hcons, by simp [beginsArithmetic, hc]⟩
  | negate e _ => exact ⟨_, _, rfl, rfl⟩
  | binary op left right ih _ =>
      rw [text_binary]
      by_cases h : left.level < op.operation.level
      · rw [textAt_of_lt h]
        exact ⟨_, _, rfl, rfl⟩
      · obtain ⟨c, more, hcons, hc⟩ := ih
        rw [textAt_of_le (Nat.le_of_not_lt h), hcons]
        exact ⟨c, _, rfl, hc⟩

theorem textAt_cons (needed : Nat) (e : Expression) :
    ∃ c more, e.textAt needed = c :: more ∧ beginsArithmetic c = true := by
  by_cases h : e.level < needed
  · rw [textAt_of_lt h]
    exact ⟨_, _, rfl, rfl⟩
  · rw [textAt_of_le (Nat.le_of_not_lt h)]
    exact e.text_cons

end Expression

private theorem beginsNoLayout_of_beginsArithmetic {c : Char} (h : beginsArithmetic c = true) :
    beginsNoLayout c := by
  refine ⟨?_, ?_, ?_, ?_, ?_, ?_⟩ <;> rintro rfl <;> revert h <;> decide

theorem Expression.skipInline_textAt (needed : Nat) (e : Expression) (rest : List Char) :
    skipInline (e.textAt needed ++ rest) = e.textAt needed ++ rest := by
  obtain ⟨c, more, hcons, hc⟩ := e.textAt_cons needed
  obtain ⟨hspace, htab, -, -, -, hslash⟩ := beginsNoLayout_of_beginsArithmetic hc
  rw [hcons, List.cons_append, skipInline_cons ⟨hspace, htab, hslash⟩]

theorem Expression.skipInline_text (e : Expression) (rest : List Char) :
    skipInline (e.text ++ rest) = e.text ++ rest := by
  have h := e.skipInline_textAt 0 rest
  rwa [textAt_of_le (Nat.zero_le _)] at h

theorem Expression.skipLayout_text (e : Expression) : skipLayout e.text = e.text := by
  obtain ⟨c, more, hcons, hc⟩ := e.text_cons
  rw [hcons, skipLayout_cons (beginsNoLayout_of_beginsArithmetic hc)]

/-! ## Operations between operands -/

theorem endsNumeral_nil : EndsNumeral [] := nofun

theorem endsNumeral_closing (text : List Char) : EndsNumeral (')' :: text) := by
  rintro c ⟨⟩
  decide

theorem Blanks.cons (blanks : Blanks) :
    ∃ b more, blanks.text = b :: more ∧ (b = ' ' ∨ b = '\t') := by
  obtain ⟨b, more, hcons⟩ := List.exists_cons_of_ne_nil blanks.ne_nil
  exact ⟨b, more, hcons, blanks.isBlank b (by simp [hcons])⟩

theorem Blanks.skipInline_text (blanks : Blanks) (rest : List Char) :
    skipInline (blanks.text ++ rest) = skipInline rest :=
  skipInline_inline (inline_of_blanks blanks.isBlank) rest

namespace Operation

variable {op : Operation}

theorem skipInline_symbol (op : Operation) (behind : Blanks) (rest : List Char) :
    skipInline (op.symbol :: (behind.text ++ rest)) = op.symbol :: (behind.text ++ rest) := by
  obtain ⟨b, more, hcons, hb⟩ := behind.cons
  rw [hcons]
  refine skipMany_of_none ?_ _
  cases op <;> rcases hb with rfl | rfl <;> rfl

theorem read_sumOperation_symbol (h : op.level = 0) (text : List Char) :
    read sumOperation (op.symbol :: text) = some (op, text) := by
  cases op with
  | add | subtract => rfl
  | multiply | divide | remainder => cases h

theorem read_productOperation_symbol (h : op.level = 1) (text : List Char) :
    read productOperation (op.symbol :: text) = some (op, text) := by
  cases op with
  | add | subtract => cases h
  | multiply | divide | remainder => rfl

theorem read_productOperation_none (h : op.level = 0) (text : List Char) :
    read productOperation (op.symbol :: text) = none := by
  cases op with
  | add | subtract => rfl
  | multiply | divide | remainder => cases h

end Operation

namespace Spaced

variable (op : Spaced) (rest : List Char)

theorem skipInline_text :
    skipInline (op.text ++ rest) = op.operation.symbol :: (op.behind.text ++ rest) := by
  rw [text, List.append_assoc, op.before.skipInline_text, List.cons_append,
    op.operation.skipInline_symbol]

theorem endsNumeral_text : EndsNumeral (op.text ++ rest) := by
  obtain ⟨b, more, hcons, hb⟩ := op.before.cons
  rw [text, hcons]
  rintro c ⟨⟩
  rcases hb with rfl | rfl <;> decide

theorem not_mayEnd_text : ¬MayEnd (op.text ++ rest) := by
  obtain ⟨b, more, hcons, hb⟩ := op.behind.cons
  rw [mayEnd_iff, skipInline_text, hcons, not_or]
  refine ⟨nofun, ?_⟩
  cases op.operation <;> rcases hb with rfl | rfl <;> exact Bool.false_ne_true

end Spaced

/-! ## Reading at each level -/

namespace Expression

def ReadsUnsigned (e : Expression) : Prop :=
  ∀ fuel rest, (e.textAt 3).length ≤ fuel → EndsNumeral rest →
    read (unsigned (sum fuel)) (e.textAt 3 ++ rest) = some (.ok e.value, rest)

def ReadsFactor (e : Expression) : Prop :=
  ∀ fuel rest, (e.textAt 2).length ≤ fuel → EndsNumeral rest →
    read (factor (sum fuel)) (e.textAt 2 ++ rest) = some (.ok e.value, rest)

def ReadsProduct (e : Expression) : Prop :=
  ∀ fuel rest, (e.textAt 1).length ≤ fuel → EndsNumeral rest →
    read (chain productOperation (factor (sum fuel))) (e.textAt 1 ++ rest) =
      chainFrom productOperation (factor (sum fuel)) (.ok e.value) rest

def ReadsSum (e : Expression) : Prop :=
  ∀ fuel rest, e.text.length ≤ fuel → EndsNumeral rest →
    read productOperation (skipInline rest) = none →
    read (sum (fuel + 1)) (e.text ++ rest) =
      chainFrom sumOperation (chain productOperation (factor (sum fuel))) (.ok e.value) rest

section

variable {e left right : Expression} {op : Spaced}

theorem readsUnsigned_number (n : Numeral) : ReadsUnsigned (.number n) := by
  intro fuel rest _ hrest
  have hnumber : read Notation.number (n.text false ++ rest) =
      some (n.decimal.toFloat false, rest) := by
    rw [Notation.number, read_map, read_token, Numeral.text, List.append_assoc,
      numberForm_numeral n.isWhole n.isFraction n.isExponent hrest, Option.map_some,
      numberOf_numeral n.isWhole n.isFraction n.isExponent]
    rfl
  have hhex : read hexNumber (n.text false ++ rest) = none := by
    rw [hexNumber, read_map, read_token, Numeral.text, List.append_assoc,
      hexForm_numeral n.isWhole n.isExponent hrest]
    rfl
  have hgroup : read (group (sum fuel)) (n.text false ++ rest) = none := by
    obtain ⟨c, more, hcons, hc⟩ := n.text_cons
    have hne : c ≠ '(' := by
      rintro rfl
      cases hc
    rw [read_group, hcons, List.cons_append, read_char_cons, if_neg hne]
    rfl
  change read (unsigned (sum fuel)) (n.text false ++ rest) = some (.ok (n.decimal.toFloat false), rest)
  simp only [unsigned, firstOf, List.foldl_cons, List.foldl_nil, read_orElse, read_map, hgroup,
    hhex, hnumber]
  rfl

theorem ReadsSum.readsGroup (h : ReadsSum e) {fuel : Nat} (hfuel : e.text.length < fuel)
    (rest : List Char) :
    read (unsigned (sum fuel)) ('(' :: (e.text ++ [')']) ++ rest) =
      some (.ok e.value, rest) := by
  obtain ⟨fuel, rfl⟩ := Nat.exists_eq_add_one_of_ne_zero (Nat.ne_of_gt (Nat.zero_lt_of_lt hfuel))
  have hclosing : skipInline (')' :: rest) = ')' :: rest := skipInline_cons (by decide) rest
  have hproduct : read productOperation (skipInline (')' :: rest)) = none := by
    rw [hclosing]
    rfl
  have hsum : read sumOperation (skipInline (')' :: rest)) = none := by
    rw [hclosing]
    rfl
  have hinside := h fuel (')' :: rest) (by omega) (endsNumeral_closing rest) hproduct
  rw [chainFrom_stop hsum] at hinside
  have hgroup : read (group (sum (fuel + 1))) ('(' :: (e.text ++ ')' :: rest)) =
      some (.ok e.value, rest) := by
    rw [read_group, read_char_self, Option.bind_some, e.skipInline_text, hinside,
      Option.bind_some, hclosing, read_char_self]
    rfl
  rw [List.cons_append, List.append_assoc, List.singleton_append]
  simp only [unsigned, firstOf, List.foldl_cons, List.foldl_nil, read_orElse, hgroup,
    Option.some_or]

theorem ReadsSum.readsUnsigned (h : ReadsSum e) (hlevel : e.level < 3) : ReadsUnsigned e := by
  intro fuel rest hfuel _
  rw [textAt_of_lt hlevel] at hfuel ⊢
  simp only [List.length_cons, List.length_append] at hfuel
  exact h.readsGroup (by omega) rest

theorem ReadsUnsigned.readsFactor (h : ReadsUnsigned e) (hlevel : e.level ≠ 2) :
    ReadsFactor e := by
  have hminus (rest : List Char) : read minus (e.textAt 3 ++ rest) = none := by
    rcases e.level_lt_or_number with hlt | ⟨n, rfl⟩
    · rw [textAt_of_lt hlt]
      rfl
    · obtain ⟨c, more, hcons, hc⟩ := n.text_cons
      change read minus (n.text false ++ rest) = none
      rw [hcons, List.cons_append, read_minus_cons (Instant.isDigit_plain hc).2.1]
  intro fuel rest hfuel hrest
  rw [← textAt_succ hlevel] at hfuel ⊢
  rw [read_factor, read_optional, hminus, Option.map_none, Option.getD_none, Option.bind_some,
    h fuel rest hfuel hrest]
  rfl

theorem ReadsUnsigned.readsFactor_negate (h : ReadsUnsigned e) : ReadsFactor (negate e) := by
  intro fuel rest hfuel hrest
  have htext : (negate e).textAt 2 = '-' :: e.textAt 3 := rfl
  rw [htext] at hfuel ⊢
  rw [List.length_cons] at hfuel
  have hminus : read minus ('-' :: (e.textAt 3 ++ rest)) = some ((), e.textAt 3 ++ rest) := rfl
  rw [List.cons_append, read_factor, read_optional, hminus, Option.map_some, Option.getD_some,
    Option.bind_some, h fuel rest (by omega) hrest]
  rfl

theorem ReadsFactor.readsProduct (h : ReadsFactor e) (hlevel : e.level ≠ 1) :
    ReadsProduct e := by
  intro fuel rest hfuel hrest
  rw [← textAt_succ hlevel] at hfuel ⊢
  rw [read_chain, h fuel rest hfuel hrest, Option.bind_some]

theorem ReadsProduct.readsSum (h : ReadsProduct e) (hlevel : e.level ≠ 0) : ReadsSum e := by
  intro fuel rest hfuel hrest hproduct
  have hfirst := h fuel rest
  rw [textAt_of_le (Nat.one_le_iff_ne_zero.2 hlevel)] at hfirst
  rw [sum, read_chain, hfirst hfuel hrest, chainFrom_stop hproduct, Option.bind_some]

private theorem chainFrom_operation {operation : Reader Operation}
    {operand : Reader (Except ParseError Float)} {needed : Nat} {rest : List Char}
    (hshort : Shortens (chainStep operation operand))
    (hoperation : ∀ text, read operation (op.operation.symbol :: text) = some (op.operation, text))
    (hoperand : read operand (right.textAt needed ++ rest) = some (.ok right.value, rest))
    (total : Float) :
    chainFrom operation operand (.ok total) (op.text ++ (right.textAt needed ++ rest)) =
      chainFrom operation operand (.ok (op.operation.apply total right.value)) rest := by
  have hfound : read operation (skipInline (op.text ++ (right.textAt needed ++ rest))) =
      some (op.operation, op.behind.text ++ (right.textAt needed ++ rest)) := by
    rw [op.skipInline_text, hoperation]
  have hvalue : read operand (skipInline (op.behind.text ++ (right.textAt needed ++ rest))) =
      some (.ok right.value, rest) := by
    rw [op.behind.skipInline_text, right.skipInline_textAt, hoperand]
  exact chainFrom_step hshort hfound hvalue

theorem ReadsProduct.binary (hop : op.operation.level = 1) (hleft : ReadsProduct left)
    (hright : ReadsFactor right) : ReadsProduct (.binary op left right) := by
  have htext : (Expression.binary op left right).textAt 1 =
      left.textAt 1 ++ (op.text ++ right.textAt 2) := by
    rw [textAt_of_le (by rw [level, hop]), text_binary, hop]
  intro fuel rest hfuel hrest
  rw [htext] at hfuel ⊢
  simp only [List.length_append] at hfuel
  have hshort := shortens_chainStep shortens_productOperation (leaves_factor (leaves_sum fuel))
  rw [List.append_assoc, List.append_assoc, hleft fuel _ (by omega) (op.endsNumeral_text _),
    value_binary]
  exact chainFrom_operation hshort (Operation.read_productOperation_symbol hop)
    (hright fuel rest (by omega) hrest) _

theorem ReadsSum.binary (hop : op.operation.level = 0) (hleft : ReadsSum left)
    (hright : ReadsProduct right) : ReadsSum (.binary op left right) := by
  have htext : (Expression.binary op left right).text =
      left.text ++ (op.text ++ right.textAt 1) := by
    rw [text_binary, hop, textAt_of_le (Nat.zero_le _)]
  intro fuel rest hfuel hrest hproduct
  rw [htext] at hfuel ⊢
  simp only [List.length_append] at hfuel
  have hshort := shortens_chainStep shortens_sumOperation (leaves_product (leaves_sum fuel))
  have hnone : read productOperation (skipInline (op.text ++ (right.textAt 1 ++ rest))) = none := by
    rw [op.skipInline_text, Operation.read_productOperation_none hop]
  have hoperand : read (chain productOperation (factor (sum fuel))) (right.textAt 1 ++ rest) =
      some (.ok right.value, rest) := by
    rw [hright fuel rest (by omega) hrest, chainFrom_stop hproduct]
  rw [List.append_assoc, List.append_assoc,
    hleft fuel _ (by omega) (op.endsNumeral_text _) hnone, value_binary]
  exact chainFrom_operation hshort (Operation.read_sumOperation_symbol hop) hoperand _

end

structure IsRead (e : Expression) : Prop where
  unsigned : ReadsUnsigned e
  factor : ReadsFactor e
  product : ReadsProduct e
  sum : ReadsSum e

/-- Each constructor is read at its own level first.  From there the levels above follow one
by one, and those below through parentheses. -/
theorem isRead (e : Expression) : IsRead e := by
  induction e with
  | number n =>
      have hlevel : (Expression.number n).level = 3 := rfl
      have hunsigned := readsUnsigned_number n
      have hfactor := hunsigned.readsFactor (by omega)
      have hproduct := hfactor.readsProduct (by omega)
      exact ⟨hunsigned, hfactor, hproduct, hproduct.readsSum (by omega)⟩
  | negate e ih =>
      have hlevel : (negate e).level = 2 := rfl
      have hfactor := ih.unsigned.readsFactor_negate
      have hproduct := hfactor.readsProduct (by omega)
      have hsum := hproduct.readsSum (by omega)
      exact ⟨hsum.readsUnsigned (by omega), hfactor, hproduct, hsum⟩
  | binary op left right hleft hright =>
      rcases op.operation.level_cases with hop | hop
      · have hlevel : (Expression.binary op left right).level = 0 := hop
        have hsum := ReadsSum.binary hop hleft.sum hright.product
        have hunsigned := hsum.readsUnsigned (by omega)
        have hfactor := hunsigned.readsFactor (by omega)
        exact ⟨hunsigned, hfactor, hfactor.readsProduct (by omega), hsum⟩
      · have hlevel : (Expression.binary op left right).level = 1 := hop
        have hproduct := ReadsProduct.binary hop hleft.product hright.factor
        have hsum := hproduct.readsSum (by omega)
        have hunsigned := hsum.readsUnsigned (by omega)
        exact ⟨hunsigned, hunsigned.readsFactor (by omega), hproduct, hsum⟩

end Expression

/-! ## Whole texts -/

inductive Compound : List Char → Prop
  | opening (negative : Bool) (more : List Char) :
      Compound ((if negative then ['-'] else []) ++ '(' :: more)
  | operation (negative : Bool) (n : Numeral) (op : Spaced) (more : List Char) :
      Compound (n.text negative ++ (op.text ++ more))

namespace Compound

variable {text : List Char}

theorem append (h : Compound text) (rest : List Char) : Compound (text ++ rest) := by
  cases h with
  | opening negative more =>
      rw [List.append_assoc, List.cons_append]
      exact .opening negative _
  | operation negative n op more =>
      rw [List.append_assoc, List.append_assoc]
      exact .operation negative n op _

theorem hexForm_none (h : Compound text) : hexForm text = none := by
  cases h with
  | opening negative more => cases negative <;> rfl
  | operation negative n op more =>
      rw [Numeral.text, List.append_assoc,
        hexForm_numeral n.isWhole n.isExponent (op.endsNumeral_text more)]

theorem dateForm_none (h : Compound text) : dateForm text = none := by
  cases h with
  | opening negative more => cases negative <;> exact dateForm_cons_none (by decide) _
  | operation negative n op more =>
      rw [Numeral.text, List.append_assoc,
        dateForm_numeral n.isWhole n.isExponent (op.endsNumeral_text more)]

theorem specialForm_none (h : Compound text) : specialForm text = none := by
  cases h with
  | opening negative more => cases negative <;> rfl
  | operation negative n op more =>
      rw [Numeral.text, List.append_assoc, specialForm_plainNumber n.isWhole]

theorem read_number_end (h : Compound text) :
    ((read number text).bind fun found => read valueEnd found.2) = none := by
  cases h with
  | opening negative more => cases negative <;> rfl
  | operation negative n op more =>
      have hnumber := @numberForm_numeral negative _ _ _ _ _ n.isWhole n.isFraction n.isExponent
        (op.endsNumeral_text more)
      have hend : read valueEnd (op.text ++ more) = none :=
        Option.not_isSome_iff_eq_none.1 (op.not_mayEnd_text more)
      rw [number, read_map, read_token, Numeral.text, List.append_assoc, hnumber, Option.map_some,
        Option.bind_some, hend]

theorem read_arithmetic (h : Compound text) (fuel : Nat) :
    read (arithmetic fuel) text = read (sum fuel) text := by
  rw [Notation.read_arithmetic, h.specialForm_none, h.read_number_end]
  rfl

end Compound

namespace Expression

theorem number_or_compound (e : Expression) :
    (∃ negative n, e.text = Numeral.text negative n ∧ e.value = n.decimal.toFloat negative) ∨
      Compound e.text := by
  induction e with
  | number n => exact .inl ⟨false, n, rfl, rfl⟩
  | negate e _ =>
      rcases e.level_lt_or_number with hlevel | ⟨n, rfl⟩
      · rw [text_negate, textAt_of_lt hlevel]
        exact .inr (.opening true _)
      · exact .inl ⟨true, n, rfl, n.decimal.toFloat_negative.symm⟩
  | binary op left right ih _ =>
      refine .inr ?_
      rw [text_binary]
      by_cases hlevel : left.level < op.operation.level
      · rw [textAt_of_lt hlevel]
        exact .opening false _
      · rw [textAt_of_le (Nat.le_of_not_lt hlevel)]
        rcases ih with ⟨negative, n, htext, -⟩ | hleft
        · rw [htext]
          exact .operation negative n op _
        · exact hleft.append _

theorem read_value_compound (e : Expression) (h : Compound e.text) {fuel : Nat}
    (hfuel : e.text.length ≤ fuel) :
    read (Notation.value (fuel + 1)) e.text = some (.ok (.number e.value), []) := by
  have hregex : read regexValue e.text = none := by
    obtain ⟨c, more, hcons, hc⟩ := e.text_cons
    rw [hcons]
    exact read_regexValue_cons (beginsNoLayout_of_beginsArithmetic hc).2.2.2.2.2 more
  have hsum : read (sum (fuel + 1)) e.text = some (.ok e.value, []) := by
    have hread := e.isRead.sum fuel [] hfuel endsNumeral_nil rfl
    rwa [List.append_nil, chainFrom_stop rfl] at hread
  have harith : read (scalar (Except.map Literal.number <$> arithmetic (fuel + 1))) e.text =
      some (.ok (.number e.value), []) := by
    refine read_scalar_some ?_ rfl
    rw [read_map, h.read_arithmetic, hsum]
    rfl
  rw [read_value]
  simp [extension, firstOf, harith, read_scalar_none, hregex, hexNumber, h.hexForm_none,
    h.dateForm_none]

/-- The text of an expression denotes the value of the expression. -/
theorem parse_eq_value (e : Expression) : parse e.text = .ok (.number e.value) := by
  refine parse_of_read_value ?_ skipLayout_nil
  rw [e.skipLayout_text]
  rcases e.number_or_compound with ⟨negative, n, htext, hvalue⟩ | hcompound
  · have hend : MayEnd [] := rfl
    have hread := read_value_numeral e.text.length negative n.isWhole n.isFraction n.isExponent hend
    rw [numberOf_numeral n.isWhole n.isFraction n.isExponent, List.append_nil] at hread
    rw [hvalue]
    nth_rewrite 2 [htext]
    exact hread
  · exact e.read_value_compound hcompound (Nat.le_refl _)

/-- All five operations, a sum in parentheses and a negative operand. -/
example :
    let digit (c : Char) (h : c.isDigit = true) : Expression := .number
      ⟨[c], [], [], 0, ⟨nofun, by simpa using h, by simp⟩, nofun, .none⟩
    let blank : Blanks := ⟨[' '], by decide, by decide⟩
    let binary (op : Operation) := binary ⟨op, blank, blank⟩
    let e := binary .add
      (binary .subtract
        (binary .subtract (digit '7' rfl)
          (binary .divide (binary .multiply (digit '2' rfl) (digit '3' rfl)) (digit '4' rfl)))
        (binary .remainder (binary .subtract (digit '8' rfl) (negate (digit '1' rfl)))
          (digit '5' rfl)))
      (digit '1' rfl)
    e.text = "7 - 2 * 3 / 4 - (8 - -1) % 5 + 1".toList ∧ e.value = 2.5 ∧
      (parse e.text).toOption.bind Literal.asNumber? = some 2.5 := by
  decide +kernel

end Expression

end RuleBook.Notation
