import RuleBook.Notation.Write
import RuleBook.Proofs.Instant.Text
import RuleBook.Proofs.Notation.Form
import RuleBook.Proofs.Notation.Layout
import RuleBook.Proofs.Number.Text

/-!
# Forms of scalars

Each lexical form takes the whole of a written scalar and nothing of what follows, and
refuses the scalars that other forms are for.
-/

namespace RuleBook.Notation

open Reader

open Form

/-! ## Refusals by the first character -/

def beginsNumber (c : Char) : Bool := c.isDigit || c == '-'

def beginsArithmetic (c : Char) : Bool :=
  c.isDigit || "+-iN(".toList.contains c

theorem takeRun1?_cons_none {test : Char → Bool} {c : Char} (h : test c = false)
    (text : List Char) : takeRun1? test (c :: text) = none := by
  simp [takeRun1?, h]

theorem wholeForm_cons_none {c : Char} (h : c.isDigit = false) (text : List Char) :
    wholeForm (c :: text) = none := by
  unfold wholeForm
  split
  · next heq =>
    obtain ⟨rfl, -⟩ := List.cons.inj heq
    cases h
  · exact takeRun1?_cons_none h _

theorem numberForm_cons_none {c : Char} (h : beginsNumber c = false) (text : List Char) :
    numberForm (c :: text) = none := by
  simp only [beginsNumber, Bool.or_eq_false_iff, beq_eq_false_iff_ne] at h
  have hsign : optional (word "-") (c :: text) = some ([], c :: text) :=
    optional_none (word_none (show "-".toList = ['-'] from rfl) h.2 text)
  simp only [numberForm, Form.sequence, List.foldl_cons, List.foldl_nil]
  refine andThen_none (andThen_none ?_ _) _
  rw [andThen_apply, hsign, Option.bind_some, wholeForm_cons_none h.1]
  rfl

theorem hexForm_cons_none {c : Char} (h : c ≠ '-' ∧ c ≠ '0') (text : List Char) :
    hexForm (c :: text) = none := by
  have hsign : optional (word "-") (c :: text) = some ([], c :: text) :=
    optional_none (word_none (show "-".toList = ['-'] from rfl) h.1 text)
  simp only [hexForm, Form.sequence, List.foldl_cons, List.foldl_nil]
  refine andThen_none (andThen_none ?_ _) _
  rw [andThen_apply, hsign, Option.bind_some,
    word_none (show "0".toList = ['0'] from rfl) h.2]
  rfl

theorem dateForm_cons_none {c : Char} (h : c.isDigit = false) (text : List Char) :
    dateForm (c :: text) = none := by
  simp only [dateForm, Form.sequence, List.foldl_cons, List.foldl_nil]
  refine andThen_none (andThen_none (andThen_none (andThen_none (andThen_none ?_ _) _) _) _) _
  rw [takeDigits?]
  simp [h]

theorem constantForm_cons_none {c : Char} (h : c ≠ 't' ∧ c ≠ 'f' ∧ c ≠ 'n')
    (text : List Char) : constantForm (c :: text) = none := by
  simp [constantForm, Form.orElse, word_none (show "true".toList = 't' :: _ from rfl) h.1,
    word_none (show "false".toList = 'f' :: _ from rfl) h.2.1,
    word_none (show "null".toList = 'n' :: _ from rfl) h.2.2]

theorem specialForm_cons_none {c : Char} (h : c ≠ '+' ∧ c ≠ '-' ∧ c ≠ 'i' ∧ c ≠ 'N')
    (text : List Char) : specialForm (c :: text) = none := by
  obtain ⟨hplus, hminus, hi, hn⟩ := h
  have hsign : optional sign (c :: text) = some ([], c :: text) := by
    refine optional_none ?_
    simp [sign, takeChar?, hplus, hminus]
  simp [specialForm, Form.orElse, andThen_apply, hsign,
    word_none (show "inf".toList = 'i' :: _ from rfl) hi,
    word_none (show "NaN".toList = 'N' :: _ from rfl) hn]

/-! ## Numbers in full -/

theorem digits1_append {digits rest : List Char} (hne : digits ≠ [])
    (hdigits : ∀ c ∈ digits, c.isDigit = true)
    (hrest : ∀ c ∈ rest.head?, c.isDigit = false) :
    digits1 (digits ++ rest) = some (digits, rest) := takeRun1?_append hne hdigits hrest

theorem wholeForm_append {whole rest : List Char} (hwhole : Decimal.IsWhole whole)
    (hrest : ∀ c ∈ rest.head?, c.isDigit = false) :
    wholeForm (whole ++ rest) = some (whole, rest) := by
  by_cases hzero : whole.head? = some '0'
  · rw [hwhole.lead hzero]
    rfl
  · have hdigits := digits1_append hwhole.ne_nil hwhole.all hrest
    cases whole with
    | nil => exact absurd rfl hwhole.ne_nil
    | cons c digits =>
        have hc : c ≠ '0' := by simpa using hzero
        rw [List.cons_append] at hdigits ⊢
        unfold wholeForm
        split
        · next heq => exact absurd (List.cons.inj heq).1 hc
        · exact hdigits

theorem word_head {w : String} {d : Char} {more rest : List Char} (hw : w.toList = d :: more)
    (hrest : ∀ c ∈ rest.head?, c ≠ d) : word w rest = none := by
  cases rest with
  | nil => exact word_nil hw
  | cons c rest => exact word_none hw (hrest c rfl) rest

theorem fractionForm_append {fraction rest : List Char}
    (hfraction : ∀ c ∈ fraction, c.isDigit = true)
    (hrest : ∀ c ∈ rest.head?, c.isDigit = false ∧ c ≠ '.') :
    optional (andThen (word ".") digits1) (Decimal.pointed fraction ++ rest) =
      some (Decimal.pointed fraction, rest) := by
  by_cases hnil : fraction = []
  · rw [Decimal.pointed, if_pos hnil, List.nil_append]
    exact optional_none (andThen_none
      (word_head (show ".".toList = ['.'] from rfl) fun c hc => (hrest c hc).2) _)
  · rw [Decimal.pointed, if_neg hnil]
    exact optional_some (andThen_some (word_append "." (fraction ++ rest))
      (digits1_append hnil hfraction fun c hc => (hrest c hc).1))

theorem exponentForm_none {rest : List Char} (hrest : ∀ c ∈ rest.head?, c ≠ 'e' ∧ c ≠ 'E') :
    exponentForm rest = none := by
  simp only [exponentForm, Form.sequence, List.foldl_cons, List.foldl_nil]
  refine andThen_none (andThen_none ?_ _) _
  cases rest with
  | nil => rfl
  | cons c rest => simp [takeChar?, hrest c rfl]

def EndsNumeral (rest : List Char) : Prop :=
  ∀ c ∈ rest.head?, c.isDigit = false ∧ c ≠ '.' ∧ c ≠ '-' ∧ c ≠ 'x' ∧ c ≠ 'X' ∧ c ≠ 'e' ∧ c ≠ 'E'

theorem MayEnd.endsNumeral {rest : List Char} (h : MayEnd rest) : EndsNumeral rest :=
  h.head (by decide)

def plainNumber (negative : Bool) (whole fraction : List Char) : List Char :=
  (if negative then ['-'] else []) ++ (whole ++ Decimal.pointed fraction)

section

variable {negative : Bool} {whole fraction exponent rest : List Char} {e : Int}

private theorem signForm_plainNumber (negative : Bool) (hwhole : Decimal.IsWhole whole)
    (tail : List Char) :
    optional (word "-") ((if negative then ['-'] else []) ++ (whole ++ tail)) =
      some (if negative then ['-'] else [], whole ++ tail) := by
  cases negative with
  | true => exact optional_some (word_append "-" (whole ++ tail))
  | false =>
      obtain ⟨c, digits, rfl, hc⟩ := hwhole.exists_cons
      exact optional_none (word_none (show "-".toList = ['-'] from rfl)
        (Instant.isDigit_plain hc).2.1 _)

theorem plainNumber_cons (negative : Bool) (hwhole : Decimal.IsWhole whole)
    (fraction : List Char) : ∃ c more, plainNumber negative whole fraction = c :: more ∧
      beginsNumber c = true := by
  cases negative with
  | true => exact ⟨_, _, rfl, rfl⟩
  | false =>
      obtain ⟨c, digits, rfl, hc⟩ := hwhole.exists_cons
      exact ⟨c, _, rfl, by simp [beginsNumber, hc]⟩

private theorem head_exponent (hexponent : Decimal.IsExponent exponent e)
    (hrest : EndsNumeral rest) : ∀ c ∈ (exponent ++ rest).head?,
      c.isDigit = false ∧ c ≠ '.' ∧ c ≠ '-' ∧ c ≠ 'x' ∧ c ≠ 'X' := by
  cases hcons : exponent with
  | nil =>
      intro c hc
      obtain ⟨hdigit, hpoint, hhyphen, hx, hX, -⟩ := hrest c hc
      exact ⟨hdigit, hpoint, hhyphen, hx, hX⟩
  | cons mark digits =>
      rintro c ⟨⟩
      rcases hexponent.head mark (by rw [hcons]; rfl) with rfl | rfl <;> decide

private theorem head_pointed (hexponent : Decimal.IsExponent exponent e)
    (hrest : EndsNumeral rest) (fraction : List Char) :
    ∀ c ∈ (Decimal.pointed fraction ++ (exponent ++ rest)).head?,
      c.isDigit = false ∧ c ≠ '-' ∧ c ≠ 'x' ∧ c ≠ 'X' := by
  unfold Decimal.pointed
  split
  · intro c hc
    obtain ⟨hdigit, -, hmark⟩ := head_exponent hexponent hrest c hc
    exact ⟨hdigit, hmark⟩
  · rintro c ⟨⟩
    decide

theorem exponentForm_append (hexponent : Decimal.IsExponent exponent e)
    (hrest : EndsNumeral rest) :
    optional exponentForm (exponent ++ rest) = some (exponent, rest) := by
  have hmark {mark : Char} (hmark : mark = 'e' ∨ mark = 'E') (text : List Char) :
      takeChar? (fun c => c == 'e' || c == 'E') (mark :: text) = some ([mark], text) := by
    rcases hmark with rfl | rfl <;> rfl
  have hdigits1 {digits : List Char} (hne : digits ≠ []) (hdigits : ∀ c ∈ digits, c.isDigit = true) :
      digits1 (digits ++ rest) = some (digits, rest) :=
    digits1_append hne hdigits fun c hc => (hrest c hc).1
  cases hexponent with
  | none =>
      refine optional_none (exponentForm_none fun c hc => ?_)
      obtain ⟨-, -, -, -, -, he, hE⟩ := hrest c hc
      exact ⟨he, hE⟩
  | @plus mark sign digits hm hsign hne hdigits =>
      have hsigned : optional Notation.sign (sign ++ (digits ++ rest)) =
          some (sign, digits ++ rest) := by
        rcases hsign with rfl | rfl
        · obtain ⟨c, more, rfl⟩ := List.exists_cons_of_ne_nil hne
          have hc : c ≠ '+' ∧ c ≠ '-' := Text.forall_isDigit (P := fun c => c ≠ '+' ∧ c ≠ '-')
            (by decide) (hdigits c (by simp))
          exact optional_none (by simp [Notation.sign, takeChar?, hc])
        · rfl
      have hall := andThen_some (andThen_some (hmark hm (sign ++ (digits ++ rest))) hsigned)
        (hdigits1 hne hdigits)
      refine optional_some ?_
      simpa [exponentForm, Form.sequence] using hall
  | @minus mark digits hm hne hdigits =>
      have hsigned : optional Notation.sign ('-' :: (digits ++ rest)) =
          some (['-'], digits ++ rest) := rfl
      have hall := andThen_some (andThen_some (hmark hm ('-' :: (digits ++ rest))) hsigned)
        (hdigits1 hne hdigits)
      refine optional_some ?_
      simpa [exponentForm, Form.sequence] using hall

theorem numberForm_numeral (hwhole : Decimal.IsWhole whole)
    (hfraction : ∀ c ∈ fraction, c.isDigit = true) (hexponent : Decimal.IsExponent exponent e)
    (hrest : EndsNumeral rest) :
    numberForm (plainNumber negative whole fraction ++ (exponent ++ rest)) =
      some (plainNumber negative whole fraction ++ exponent, rest) := by
  have hfirst : ∀ c ∈ (Decimal.pointed fraction ++ (exponent ++ rest)).head?, c.isDigit = false :=
    fun c hc => (head_pointed hexponent hrest fraction c hc).1
  have hpoint : ∀ c ∈ (exponent ++ rest).head?, c.isDigit = false ∧ c ≠ '.' := fun c hc =>
    ⟨(head_exponent hexponent hrest c hc).1, (head_exponent hexponent hrest c hc).2.1⟩
  have hall := andThen_some (andThen_some (andThen_some
    (signForm_plainNumber negative hwhole (Decimal.pointed fraction ++ (exponent ++ rest)))
    (wholeForm_append hwhole hfirst)) (fractionForm_append hfraction hpoint))
    (exponentForm_append hexponent hrest)
  simpa [numberForm, Form.sequence, plainNumber] using hall

theorem hexForm_numeral (hwhole : Decimal.IsWhole whole) (hexponent : Decimal.IsExponent exponent e)
    (hrest : EndsNumeral rest) :
    hexForm (plainNumber negative whole fraction ++ (exponent ++ rest)) = none := by
  have hsign :=
    signForm_plainNumber negative hwhole (Decimal.pointed fraction ++ (exponent ++ rest))
  simp only [hexForm, Form.sequence, List.foldl_cons, List.foldl_nil]
  refine andThen_none ?_ _
  rw [plainNumber, List.append_assoc, List.append_assoc]
  by_cases hzero : whole.head? = some '0'
  · obtain rfl := hwhole.lead hzero
    rw [andThen_apply, andThen_some hsign (word_append "0" _), Option.bind_some]
    have hhead := head_pointed hexponent hrest fraction
    have hnone : takeChar? (fun c => c == 'x' || c == 'X')
        (Decimal.pointed fraction ++ (exponent ++ rest)) = none := by
      cases htail : Decimal.pointed fraction ++ (exponent ++ rest) with
      | nil => rfl
      | cons c tail =>
          rw [htail] at hhead
          simp [takeChar?, hhead c rfl]
    rw [hnone]
    rfl
  · refine andThen_none ?_ _
    obtain ⟨c, digits, rfl, -⟩ := hwhole.exists_cons
    rw [andThen_apply, hsign, Option.bind_some, List.cons_append,
      word_none (show "0".toList = ['0'] from rfl) (by simpa using hzero)]
    rfl

end

theorem numberOf_numeral {negative : Bool} {whole fraction exponent : List Char} {e : Int}
    (hwhole : Decimal.IsWhole whole) (hfraction : ∀ c ∈ fraction, c.isDigit = true)
    (hexponent : Decimal.IsExponent exponent e) :
    numberOf (plainNumber negative whole fraction ++ exponent) = Decimal.toFloat negative
      ⟨Nat.ofDigitChars 10 (whole ++ fraction) 0, e - fraction.length⟩ := by
  rw [numberOf, plainNumber, List.append_assoc, List.append_assoc,
    Number.ofText?_numeral hwhole hfraction hexponent, Option.getD_some]

theorem specialForm_plainNumber {negative : Bool} {whole fraction rest : List Char}
    (hwhole : Decimal.IsWhole whole) :
    specialForm (plainNumber negative whole fraction ++ rest) = none := by
  obtain ⟨c, digits, rfl, hdigit⟩ := hwhole.exists_cons
  have hc : c ≠ '+' ∧ c ≠ '-' ∧ c ≠ 'i' ∧ c ≠ 'N' :=
    Text.forall_isDigit (P := fun c => c ≠ '+' ∧ c ≠ '-' ∧ c ≠ 'i' ∧ c ≠ 'N') (by decide) hdigit
  cases negative with
  | false => exact specialForm_cons_none hc _
  | true =>
      have hsign (text : List Char) :
          optional sign ('-' :: c :: text) = some (['-'], c :: text) := rfl
      simp [specialForm, plainNumber, Form.orElse, andThen_apply, hsign,
        word_none (show "inf".toList = 'i' :: _ from rfl) hc.2.2.1,
        word_none (show "NaN".toList = 'N' :: _ from rfl) (show '-' ≠ 'N' by decide)]

theorem numberText_cases (x : Float) :
    (numberText x = "NaN".toList ∧ x = Number.nan) ∨
    (numberText x = "-inf".toList ∧ x = Number.infinity true) ∨
    (numberText x = "+inf".toList ∧ x = Number.infinity false) ∨
    ∃ negative whole fraction, numberText x = plainNumber negative whole fraction ∧
      Decimal.IsWhole whole ∧ (∀ c ∈ fraction, c.isDigit = true) ∧
      numberOf (plainNumber negative whole fraction) = x := by
  unfold numberText
  split
  · next hnan => exact .inl ⟨rfl, Number.eq_nan hnan⟩
  · next hnan =>
    split
    · next hfinite =>
      obtain ⟨whole, fraction, hwhole, hfraction, htext, hread⟩ := Number.text_eq .up hfinite
      refine .inr (.inr (.inr ⟨_, whole, fraction, htext, hwhole, hfraction, ?_⟩))
      rw [plainNumber, ← htext, numberOf, hread, Option.getD_some]
    · next hfinite =>
      have hinf := Number.eq_infinity (by simpa using hnan) (by simpa using hfinite)
      split
      · next hnegative =>
        rw [hnegative] at hinf
        exact .inr (.inl ⟨rfl, hinf⟩)
      · next hnegative =>
        rw [Bool.not_eq_true] at hnegative
        rw [hnegative] at hinf
        exact .inr (.inr (.inl ⟨rfl, hinf⟩))

/-! ## Dates in full -/

theorem takeDigits?_append {width n : Nat} {digits : List Char}
    (h : Instant.IsPadded width n digits) (rest : List Char) :
    takeDigits? width (digits ++ rest) = some (digits, rest) := by
  have htake : (digits ++ rest).take width = digits := by
    rw [List.take_append_of_le_length (Nat.le_of_eq h.length.symm),
      List.take_of_length_le (Nat.le_of_eq h.length)]
  have hdrop : (digits ++ rest).drop width = rest := by rw [← h.length, List.drop_left]
  simp only [takeDigits?, htake, hdrop]
  rw [if_pos ⟨h.length, List.all_eq_true.2 h.all⟩]

theorem dateForm_begins {text : List Char} (h : dateForm text ≠ none) :
    ∃ year rest, text = year ++ '-' :: rest ∧ year.length = 4 ∧
      ∀ c ∈ year, c.isDigit = true := by
  have hfirst : andThen (takeDigits? 4) (word "-") text ≠ none := by
    intro hnone
    refine h ?_
    simp only [dateForm, Form.sequence, List.foldl_cons, List.foldl_nil]
    exact andThen_none (andThen_none (andThen_none (andThen_none hnone _) _) _) _
  rw [andThen_apply, takeDigits?] at hfirst
  by_cases hyear : (text.take 4).length = 4 ∧ (text.take 4).all Char.isDigit = true
  · rw [if_pos hyear, Option.bind_some] at hfirst
    cases hrest : text.drop 4 with
    | nil =>
        rw [hrest] at hfirst
        exact absurd rfl hfirst
    | cons c rest =>
        by_cases hc : c = '-'
        · exact ⟨text.take 4, rest, by rw [← hc, ← hrest, List.take_append_drop], hyear.1,
            List.all_eq_true.1 hyear.2⟩
        · rw [hrest, word_none (show "-".toList = ['-'] from rfl) hc] at hfirst
          exact absurd rfl hfirst
  · rw [if_neg hyear] at hfirst
    exact absurd rfl hfirst

theorem dateForm_numeral {negative : Bool} {whole fraction exponent rest : List Char} {e : Int}
    (hwhole : Decimal.IsWhole whole) (hexponent : Decimal.IsExponent exponent e)
    (hrest : EndsNumeral rest) :
    dateForm (plainNumber negative whole fraction ++ (exponent ++ rest)) = none := by
  cases negative with
  | true => exact dateForm_cons_none (by decide) _
  | false =>
      by_contra hdate
      obtain ⟨year, tail, heq, -, hyear⟩ := dateForm_begins hdate
      -- The digits in front end at a hyphen for a date, and at no hyphen for the number.
      have hdate : (year ++ '-' :: tail).span Char.isDigit = (year, '-' :: tail) :=
        Text.span_append hyear (by simp)
      have hhead := head_pointed hexponent hrest fraction
      have hnumber := Text.span_append hwhole.all fun c hc => (hhead c hc).1
      rw [← heq, plainNumber, if_neg Bool.false_ne_true, List.nil_append, List.append_assoc,
        hnumber] at hdate
      exact (hhead '-' (by rw [(Prod.mk.inj hdate).2]; rfl)).2.1 rfl

section

variable {t : Instant} {rest : List Char}

private theorem clockForm_append {hour minute second : List Char}
    (hhour : ∃ n, Instant.IsPadded 2 n hour) (hminute : ∃ n, Instant.IsPadded 2 n minute)
    (hsecond : ∃ n, Instant.IsPadded 2 n second) (rest : List Char) :
    clockForm (hour ++ ':' :: (minute ++ ':' :: (second ++ rest))) =
      some (hour ++ ':' :: (minute ++ ':' :: second), rest) := by
  obtain ⟨_, hhour⟩ := hhour
  obtain ⟨_, hminute⟩ := hminute
  obtain ⟨_, hsecond⟩ := hsecond
  have hall := andThen_some (andThen_some (andThen_some (andThen_some
    (takeDigits?_append hhour (':' :: (minute ++ ':' :: (second ++ rest))))
    (word_append ":" (minute ++ ':' :: (second ++ rest))))
    (takeDigits?_append hminute (':' :: (second ++ rest))))
    (word_append ":" (second ++ rest))) (takeDigits?_append hsecond rest)
  simpa [clockForm, Form.sequence] using hall

private theorem timeForm_append {hour minute second : List Char} (nanos : Nat)
    (hhour : ∃ n, Instant.IsPadded 2 n hour) (hminute : ∃ n, Instant.IsPadded 2 n minute)
    (hsecond : ∃ n, Instant.IsPadded 2 n second) (rest : List Char) :
    let time := 'T' :: (hour ++ ':' :: (minute ++ ':' :: (second ++
      (Instant.fractionText nanos ++ ['Z']))))
    sequence (word "T") [clockForm, optional (andThen (word ".") digits1), offsetForm]
      (time ++ rest) = some (time, rest) := by
  have hfraction : optional (andThen (word ".") digits1)
      (Instant.fractionText nanos ++ 'Z' :: rest) =
      some (Instant.fractionText nanos, 'Z' :: rest) := by
    rcases Instant.fractionText_cases nanos with h | ⟨digits, h, hne, hdigits⟩
    · rw [h]
      exact optional_none (andThen_none (word_none (show ".".toList = ['.'] from rfl)
        (by decide) _) _)
    · rw [h]
      exact optional_some (andThen_some (word_append "." (digits ++ 'Z' :: rest))
        (digits1_append hne hdigits (by simp)))
  have hoffset : offsetForm ('Z' :: rest) = some (['Z'], rest) := by
    rw [offsetForm, Form.orElse, show 'Z' :: rest = "Z".toList ++ rest from rfl, word_append]
    rfl
  have hall := andThen_some (andThen_some (andThen_some
    (word_append "T" (hour ++ ':' :: (minute ++ ':' :: (second ++
      (Instant.fractionText nanos ++ 'Z' :: rest)))))
    (clockForm_append hhour hminute hsecond _)) hfraction) hoffset
  simpa [Form.sequence] using hall

theorem dateForm_shortText (hyear : 0 ≤ t.date.year ∧ t.date.year ≤ 9999)
    (hrest : AtEnd rest) : dateForm (t.shortText ++ rest) = some (t.shortText, rest) := by
  obtain ⟨year, month, day, htext, hy, hm, hd⟩ := Instant.dateText_eq hyear
  have hdate (tail : List Char) : sequence (takeDigits? 4)
      [word "-", takeDigits? 2, word "-", takeDigits? 2] (Instant.dateText t.date ++ tail) =
        some (Instant.dateText t.date, tail) := by
    have hall := andThen_some (andThen_some (andThen_some (andThen_some
      (takeDigits?_append hy ('-' :: (month ++ '-' :: (day ++ tail))))
      (word_append "-" (month ++ '-' :: (day ++ tail))))
      (takeDigits?_append hm ('-' :: (day ++ tail))))
      (word_append "-" (day ++ tail))) (takeDigits?_append hd tail)
    simpa [Form.sequence, htext] using hall
  unfold Instant.shortText
  split
  · have hnone : sequence (word "T")
        [clockForm, optional (andThen (word ".") digits1), offsetForm] rest = none := by
      simp only [Form.sequence, List.foldl_cons, List.foldl_nil]
      refine andThen_none (andThen_none (andThen_none ?_ _) _) _
      refine word_head (show "T".toList = ['T'] from rfl) fun c hc => ?_
      rcases hrest.head c hc with rfl | rfl | rfl <;> decide
    have hall := andThen_some (hdate rest) (optional_none hnone)
    rwa [List.append_nil] at hall
  · obtain ⟨hour, minute, second, nanos, htime, hh, hmin, hs⟩ := Instant.timestampText_eq t
    have hall := andThen_some (hdate _) (optional_some (timeForm_append nanos hh hmin hs rest))
    rw [htime, List.append_assoc]
    exact hall

theorem shortText_begins (hyear : 0 ≤ t.date.year ∧ t.date.year ≤ 9999) :
    ∃ c d more, t.shortText = c :: d :: more ∧ c.isDigit = true ∧ d.isDigit = true := by
  obtain ⟨more, hmore⟩ := Instant.shortText_eq_append t
  have hpadded := Instant.isPadded_padded 4 t.date.year.toNat (by decide) (by omega)
  rw [Instant.yearText, if_pos hyear] at hmore
  obtain ⟨c, digits, hcons, hc⟩ := hpadded.head
  obtain ⟨d, digits, rfl⟩ := List.exists_cons_of_length_pos
    (show 0 < digits.length by have := hpadded.length; simp [hcons] at this; omega)
  rw [hcons] at hmore
  exact ⟨c, d, digits ++ more, hmore, hc, hpadded.all d (by simp [hcons])⟩

end

theorem hexForm_digits {c d : Char} (hc : c.isDigit = true) (hd : d.isDigit = true)
    (text : List Char) : hexForm (c :: d :: text) = none := by
  have hsign : optional (word "-") (c :: d :: text) = some ([], c :: d :: text) :=
    optional_none (word_none (show "-".toList = ['-'] from rfl) (Instant.isDigit_plain hc).2.1 _)
  have hx : d ≠ 'x' ∧ d ≠ 'X' := Text.forall_isDigit (P := fun d => d ≠ 'x' ∧ d ≠ 'X') (by decide) hd
  simp only [hexForm, Form.sequence, List.foldl_cons, List.foldl_nil]
  refine andThen_none ?_ _
  by_cases hzero : c = '0'
  · subst hzero
    have hnone : takeChar? (fun c => c == 'x' || c == 'X') (d :: text) = none := by
      simp [takeChar?, hx]
    rw [andThen_apply, andThen_some hsign (word_append "0" (d :: text)), Option.bind_some, hnone]
    rfl
  · refine andThen_none ?_ _
    rw [andThen_apply, hsign, Option.bind_some, word_none (show "0".toList = ['0'] from rfl) hzero]
    rfl

/-! ## Characters of numbers and dates -/

section

variable {P : Char → Prop} (hdigit : ∀ c : Char, c.isDigit = true → P c)

include hdigit

theorem forall_mem_numberText (hmark : ∀ c ∈ "+-.NaNinf".toList, P c) (x : Float) :
    ∀ c ∈ numberText x, P c := by
  intro c hc
  rcases numberText_cases x with ⟨h, -⟩ | ⟨h, -⟩ | ⟨h, -⟩ |
    ⟨negative, whole, fraction, h, hwhole, hfraction, -⟩
  · exact hmark c ((by decide : "NaN".toList ⊆ "+-.NaNinf".toList) (h ▸ hc))
  · exact hmark c ((by decide : "-inf".toList ⊆ "+-.NaNinf".toList) (h ▸ hc))
  · exact hmark c ((by decide : "+inf".toList ⊆ "+-.NaNinf".toList) (h ▸ hc))
  · rw [h, plainNumber, List.mem_append, List.mem_append] at hc
    rcases hc with hc | hc | hc
    · cases negative with
      | true =>
          obtain rfl := List.mem_singleton.1 hc
          exact hmark _ (by decide)
      | false => cases hc
    · exact hdigit c (hwhole.all c hc)
    · unfold Decimal.pointed at hc
      split at hc
      · cases hc
      · rcases List.mem_cons.1 hc with rfl | hc
        · exact hmark _ (by decide)
        · exact hdigit c (hfraction c hc)

private theorem forall_mem_dateText (hmark : ∀ c ∈ "+-:.TZ".toList, P c) (date : CalendarDate) :
    ∀ c ∈ Instant.dateText date, P c := by
  have hpadded (width n : Nat) : ∀ c ∈ Instant.padded width n, P c := fun c hc =>
    hdigit c (Instant.isDigit_padded width n c hc)
  have hhyphen : P '-' := hmark _ (by decide)
  have hyear : ∀ c ∈ Instant.yearText date.year, P c := by
    intro c hc
    unfold Instant.yearText at hc
    split at hc
    · exact hpadded _ _ c hc
    · rcases List.mem_cons.1 hc with rfl | hc
      · split
        · exact hhyphen
        · exact hmark _ (by decide)
      · exact hpadded _ _ c hc
  intro c hc
  simp only [Instant.dateText, List.mem_append, List.mem_cons] at hc
  rcases hc with (hc | rfl | hc) | rfl | hc
  · exact hyear c hc
  · exact hhyphen
  · exact hpadded _ _ c hc
  · exact hhyphen
  · exact hpadded _ _ c hc

theorem forall_mem_timestampText (hmark : ∀ c ∈ "+-:.TZ".toList, P c) (t : Instant) :
    ∀ c ∈ t.timestampText, P c := by
  have hcolon : P ':' := hmark _ (by decide)
  have hfraction (nanos : Nat) : ∀ c ∈ Instant.fractionText nanos, P c := by
    intro c hc
    rcases Instant.fractionText_cases nanos with h | ⟨digits, h, -, hdigits⟩
    · simp [h] at hc
    · rw [h] at hc
      rcases List.mem_cons.1 hc with rfl | hc
      · exact hmark _ (by decide)
      · exact hdigit c (hdigits c hc)
  obtain ⟨hour, minute, second, nanos, htime, ⟨_, hh⟩, ⟨_, hm⟩, ⟨_, hs⟩⟩ :=
    Instant.timestampText_eq t
  intro c hc
  simp only [htime, List.mem_append, List.mem_cons, List.not_mem_nil, or_false] at hc
  rcases hc with hc | rfl | hc | rfl | hc | rfl | hc | hc | rfl
  · exact forall_mem_dateText hdigit hmark t.date c hc
  · exact hmark _ (by decide)
  · exact hdigit c (hh.all c hc)
  · exact hcolon
  · exact hdigit c (hm.all c hc)
  · exact hcolon
  · exact hdigit c (hs.all c hc)
  · exact hfraction nanos c hc
  · exact hmark _ (by decide)

theorem forall_mem_shortText (hmark : ∀ c ∈ "+-:.TZ".toList, P c) (t : Instant) :
    ∀ c ∈ t.shortText, P c := by
  unfold Instant.shortText
  split
  · exact forall_mem_dateText hdigit hmark t.date
  · exact forall_mem_timestampText hdigit hmark t

end

end RuleBook.Notation
