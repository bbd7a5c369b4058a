import RuleBook.Notation.Grammar
import RuleBook.Proofs.Notation.Reader
import RuleBook.Proofs.Text.Blank

/-!
# Layout and what follows a value

Layout is passed over as far as it goes, so it stops before any text that begins with
something else.  A value that is written out is followed by nothing, by a comma or by
a closing bracket, and a scalar may end before each of these.
-/

namespace RuleBook.Notation

open Reader

theorem skipMany_of_none {step : List Char → Option (List Char)} {text : List Char}
    (h : step text = none) (fuel : Nat) : skipMany step fuel text = text := by
  cases fuel with
  | zero => rfl
  | succ fuel => simp [skipMany, h]

theorem skipMany_passage {R : List Char → List Char → Prop} (hR : IsPassage R)
    {step : List Char → Option (List Char)}
    (hstep : ∀ text rest, step text = some rest → R text rest) (fuel : Nat)
    (text : List Char) : R text (skipMany step fuel text) := by
  induction fuel generalizing text with
  | zero => exact hR.refl text
  | succ fuel ih =>
      rw [skipMany]
      cases h : step text with
      | none => exact hR.refl text
      | some rest => exact hR.trans (hstep text rest h) (ih rest)

theorem isPassage_suffix : IsPassage fun text rest => rest <:+ text where
  refl := List.suffix_refl
  trans h h' := h'.trans h

theorem takeBlank?_suffix {text rest : List Char} (h : takeBlank? text = some rest) :
    rest <:+ text := by
  unfold takeBlank? at h
  split at h <;> simp only [Option.some.injEq, reduceCtorEq] at h
  all_goals exact h ▸ List.suffix_cons _ _

theorem takeLineBreak?_suffix {text rest : List Char} (h : takeLineBreak? text = some rest) :
    rest <:+ text := by
  unfold takeLineBreak? at h
  split at h <;> simp only [Option.some.injEq, reduceCtorEq] at h
  · exact h ▸ List.suffix_cons _ _
  · exact h ▸ (List.suffix_cons _ _).trans (List.suffix_cons _ _)
  · exact h ▸ List.suffix_cons _ _

theorem takeLineBreak?_length {text rest : List Char} (h : takeLineBreak? text = some rest) :
    rest.length < text.length := by
  unfold takeLineBreak? at h
  split at h <;> cases h <;> simp

theorem takeLineComment?_suffix {text rest : List Char}
    (h : takeLineComment? text = some rest) : rest <:+ text := by
  unfold takeLineComment? at h
  split at h <;> simp only [Option.some.injEq, reduceCtorEq] at h
  · exact h ▸ (List.dropWhile_suffix _).trans (List.suffix_cons _ _)
  · exact h ▸ (List.dropWhile_suffix _).trans
      ((List.suffix_cons _ _).trans (List.suffix_cons _ _))

theorem afterBlock?_suffix {text rest : List Char} (h : afterBlock? text = some rest) :
    rest <:+ text := by
  fun_induction afterBlock? text with
  | case1 => cases h
  | case2 text =>
      cases h
      exact (List.suffix_cons _ _).trans (List.suffix_cons _ _)
  | case3 c text _ ih => exact (ih h).trans (List.suffix_cons _ _)

theorem takeBlockComment?_suffix {text rest : List Char}
    (h : takeBlockComment? text = some rest) : rest <:+ text := by
  unfold takeBlockComment? at h
  split at h
  · exact (afterBlock?_suffix h).trans ((List.suffix_cons _ _).trans (List.suffix_cons _ _))
  · cases h

def inlineStep (text : List Char) : Option (List Char) := takeBlank? text <|> takeBlockComment? text

theorem inlineStep_suffix {text rest : List Char} (h : inlineStep text = some rest) :
    rest <:+ text := by
  rw [inlineStep, Option.orElse_eq_orElse, Option.orElse_eq_or, Option.or_eq_some_iff] at h
  rcases h with h | ⟨-, h⟩
  · exact takeBlank?_suffix h
  · exact takeBlockComment?_suffix h

theorem skipInline_suffix (text : List Char) : skipInline text <:+ text :=
  skipMany_passage isPassage_suffix (fun _ _ => inlineStep_suffix) _ _

def layoutStep (text : List Char) : Option (List Char) :=
  takeBlank? text <|> takeLineBreak? text <|> takeLineComment? text <|> takeBlockComment? text

theorem layoutStep_suffix {text rest : List Char} (h : layoutStep text = some rest) :
    rest <:+ text := by
  simp only [layoutStep, Option.orElse_eq_orElse, Option.orElse_eq_or, Option.or_eq_some_iff] at h
  rcases h with h | ⟨-, h | ⟨-, h | ⟨-, h⟩⟩⟩
  · exact takeBlank?_suffix h
  · exact takeLineBreak?_suffix h
  · exact takeLineComment?_suffix h
  · exact takeBlockComment?_suffix h

theorem skipMany_layoutStep_suffix (fuel : Nat) (text : List Char) :
    skipMany layoutStep fuel text <:+ text :=
  skipMany_passage isPassage_suffix (fun _ _ => layoutStep_suffix) fuel text

theorem skipLayout_suffix (text : List Char) : skipLayout text <:+ text :=
  skipMany_layoutStep_suffix text.length text

def beginsNoLayout (c : Char) : Prop :=
  c ≠ ' ' ∧ c ≠ '\t' ∧ c ≠ '\n' ∧ c ≠ '\r' ∧ c ≠ '#' ∧ c ≠ '/'

instance (c : Char) : Decidable (beginsNoLayout c) := inferInstanceAs (Decidable (_ ∧ _))

theorem takeBlank?_cons {c : Char} (h : c ≠ ' ' ∧ c ≠ '\t') (text : List Char) :
    takeBlank? (c :: text) = none := by
  obtain ⟨h1, h2⟩ := h
  unfold takeBlank?
  split <;> simp_all

theorem takeLineBreak?_cons {c : Char} (h : c ≠ '\n' ∧ c ≠ '\r') (text : List Char) :
    takeLineBreak? (c :: text) = none := by
  obtain ⟨h1, h2⟩ := h
  unfold takeLineBreak?
  split <;> simp_all

theorem takeLineComment?_cons {c : Char} (h : c ≠ '#' ∧ c ≠ '/') (text : List Char) :
    takeLineComment? (c :: text) = none := by
  obtain ⟨h1, h2⟩ := h
  unfold takeLineComment?
  split <;> simp_all

theorem takeBlockComment?_cons {c : Char} (h : c ≠ '/') (text : List Char) :
    takeBlockComment? (c :: text) = none := by
  unfold takeBlockComment?
  split <;> simp_all

@[simp] theorem skipLayout_nil : skipLayout [] = [] := rfl

theorem skipInline_cons {c : Char} (h : c ≠ ' ' ∧ c ≠ '\t' ∧ c ≠ '/') (text : List Char) :
    skipInline (c :: text) = c :: text := by
  refine skipMany_of_none ?_ _
  rw [takeBlank?_cons ⟨h.1, h.2.1⟩, takeBlockComment?_cons h.2.2]
  rfl

theorem skipLayout_cons {c : Char} (h : beginsNoLayout c) (text : List Char) :
    skipLayout (c :: text) = c :: text := by
  obtain ⟨h1, h2, h3, h4, h5, h6⟩ := h
  refine skipMany_of_none ?_ _
  rw [takeBlank?_cons ⟨h1, h2⟩, takeLineBreak?_cons ⟨h3, h4⟩, takeLineComment?_cons ⟨h5, h6⟩,
    takeBlockComment?_cons h6]
  rfl

theorem skipLayout_slash {c : Char} (h : c ≠ '/' ∧ c ≠ '*') (text : List Char) :
    skipLayout ('/' :: c :: text) = '/' :: c :: text := by
  obtain ⟨h1, h2⟩ := h
  refine skipMany_of_none ?_ _
  have hline : takeLineComment? ('/' :: c :: text) = none := by
    unfold takeLineComment?
    split <;> simp_all
  have hblock : takeBlockComment? ('/' :: c :: text) = none := by
    unfold takeBlockComment?
    split <;> simp_all
  rw [takeBlank?_cons (by decide), takeLineBreak?_cons (by decide), hline, hblock]
  rfl

private theorem layoutStep_slash {text rest : List Char}
    (h : layoutStep ('/' :: text) = some rest) : rest <:+ text := by
  rw [layoutStep, takeBlank?_cons (by decide), takeLineBreak?_cons (by decide)] at h
  simp only [Option.orElse_eq_orElse, Option.orElse_eq_or, Option.none_or,
    Option.or_eq_some_iff] at h
  rcases h with h | ⟨-, h⟩
  · unfold takeLineComment? at h
    split at h
    · next heq => cases heq
    · next after heq =>
      cases heq
      cases h
      exact (List.dropWhile_suffix _).trans (List.suffix_cons _ _)
    · cases h
  · unfold takeBlockComment? at h
    split at h
    · next after heq =>
      cases heq
      exact (afterBlock?_suffix h).trans (List.suffix_cons _ _)
    · cases h

theorem skipLayout_slash_or (text : List Char) :
    skipLayout ('/' :: text) = '/' :: text ∨ skipLayout ('/' :: text) <:+ text := by
  change skipMany layoutStep (text.length + 1) ('/' :: text) = _ ∨
    skipMany layoutStep (text.length + 1) ('/' :: text) <:+ _
  rw [skipMany]
  cases h : layoutStep ('/' :: text) with
  | none => exact .inl rfl
  | some rest => exact .inr ((skipMany_layoutStep_suffix _ rest).trans (layoutStep_slash h))

@[simp] theorem skipLayout_space (text : List Char) :
    skipLayout (' ' :: text) = skipLayout text := rfl

def AtEnd : List Char → Prop
  | [] => True
  | c :: _ => c = ',' ∨ c = ']' ∨ c = '\x7d'

theorem atEnd_nil : AtEnd [] := trivial

theorem AtEnd.head {rest : List Char} (h : AtEnd rest) :
    ∀ c ∈ rest.head?, c = ',' ∨ c = ']' ∨ c = '\x7d' := by
  cases rest with
  | nil => simp
  | cons d rest =>
      rintro c hc
      obtain rfl := Option.some.inj hc
      exact h

theorem AtEnd.of_isPrefix {rest p : List Char} (h : AtEnd rest) (hp : p <+: rest) : AtEnd p := by
  cases p with
  | nil => trivial
  | cons c p =>
      obtain ⟨more, rfl⟩ := hp
      exact h

theorem AtEnd.skipInline_eq {rest : List Char} (h : AtEnd rest) : skipInline rest = rest := by
  cases rest with
  | nil => rfl
  | cons c rest => rcases h with rfl | rfl | rfl <;> exact skipInline_cons (by decide) _

theorem AtEnd.endsScalar {c : Char} {rest : List Char} (h : AtEnd (c :: rest)) :
    endsScalar (c :: rest) = true := by
  rcases h with rfl | rfl | rfl <;> rfl

def MayEnd (rest : List Char) : Prop := (read valueEnd rest).isSome = true

theorem AtEnd.mayEnd {rest : List Char} (h : AtEnd rest) : MayEnd rest := by
  cases rest with
  | nil => rfl
  | cons c rest => simp [MayEnd, valueEnd, h.skipInline_eq, h.endsScalar]

theorem read_valueEnd_cons {c : Char} {rest : List Char} (h : beginsNoLayout c)
    (hc : ¬AtEnd (c :: rest)) : read valueEnd (c :: rest) = none := by
  obtain ⟨h1, h2, h3, h4, h5, h6⟩ := h
  simp only [AtEnd, not_or] at hc
  have hends : Notation.endsScalar (c :: rest) = false := by
    unfold Notation.endsScalar
    split
    · simp_all
    · simp_all
    · simp_all
    · rw [takeLineBreak?_cons ⟨h3, h4⟩, takeLineComment?_cons ⟨h5, h6⟩]
      rfl
  simp [valueEnd, skipInline_cons ⟨h1, h2, h6⟩, hends, endOfText]

theorem MayEnd.head {P : Char → Prop} {rest : List Char} (h : MayEnd rest)
    (hall : ∀ c ∈ " \t\n\r#/,]\x7d".toList, P c) : ∀ c ∈ rest.head?, P c := by
  intro c hc
  cases rest with
  | nil => cases hc
  | cons d rest =>
      obtain rfl := Option.some.inj hc
      refine hall d (by_contra fun hmem => ?_)
      have hne : d ≠ ' ' ∧ d ≠ '\t' ∧ d ≠ '\n' ∧ d ≠ '\r' ∧ d ≠ '#' ∧ d ≠ '/' ∧ d ≠ ',' ∧
          d ≠ ']' ∧ d ≠ '\x7d' := by simpa using hmem
      obtain ⟨h1, h2, h3, h4, h5, h6, hend⟩ := hne
      have hnone : read valueEnd (d :: rest) = none :=
        read_valueEnd_cons ⟨h1, h2, h3, h4, h5, h6⟩ (by simpa [AtEnd] using hend)
      rw [MayEnd, hnone] at h
      cases h

theorem takeSeparator?_comma (text : List Char) :
    takeSeparator? (',' :: text) = some (skipLayout text) := by
  rw [takeSeparator?, skipInline_cons (by decide)]
  rfl

theorem takeBreak?_cons {c : Char} (h : c ≠ ',' ∧ c ≠ '\n' ∧ c ≠ '\r' ∧ c ≠ '#' ∧ c ≠ '/')
    (text : List Char) : takeBreak? (c :: text) = none := by
  obtain ⟨h1, h2, h3, h4, h5⟩ := h
  unfold takeBreak?
  split
  · simp_all
  · rw [takeLineComment?_cons ⟨h4, h5⟩, Option.getD_none, takeLineBreak?_cons ⟨h2, h3⟩]

theorem takeSeparator?_closing {c : Char} (h : c = ']' ∨ c = '\x7d') (text : List Char) :
    takeSeparator? (c :: text) = none := by
  rcases h with rfl | rfl <;>
    rw [takeSeparator?, skipInline_cons (by decide), takeBreak?_cons (by decide)] <;> rfl

theorem takeTrailingComma?_closing {c : Char} (h : c = ']' ∨ c = '\x7d') (text : List Char) :
    takeTrailingComma? (c :: text) = none := by
  rcases h with rfl | rfl <;> rw [takeTrailingComma?, skipInline_cons (by decide)] <;> rfl

theorem takeBreak?_suffix {text rest : List Char} (h : takeBreak? text = some rest) :
    rest <:+ text ∧ rest.length < text.length := by
  unfold takeBreak? at h
  split at h
  · cases h
    exact ⟨List.suffix_cons _ _, by simp⟩
  · have hcomment : (takeLineComment? text).getD text <:+ text := by
      cases hc : takeLineComment? text with
      | none => exact List.suffix_refl _
      | some after => exact takeLineComment?_suffix hc
    have hbreak := takeLineBreak?_suffix h
    exact ⟨hbreak.trans hcomment, Nat.lt_of_lt_of_le (takeLineBreak?_length h) hcomment.length_le⟩

theorem takeSeparator?_suffix {text rest : List Char} (h : takeSeparator? text = some rest) :
    rest <:+ text ∧ rest.length < text.length := by
  obtain ⟨after, hbreak, rfl⟩ := Option.map_eq_some_iff.1 h
  obtain ⟨hsuffix, hlength⟩ := takeBreak?_suffix hbreak
  have hinline := skipInline_suffix text
  have hlayout := skipLayout_suffix after
  exact ⟨hlayout.trans (hsuffix.trans hinline),
    Nat.lt_of_lt_of_le (Nat.lt_of_le_of_lt hlayout.length_le hlength) hinline.length_le⟩

theorem takeTrailingComma?_suffix {text rest : List Char}
    (h : takeTrailingComma? text = some rest) : rest <:+ text := by
  unfold takeTrailingComma? at h
  split at h
  · next _ after heq =>
    cases h
    exact (List.suffix_cons _ _).trans (heq ▸ skipInline_suffix text)
  · cases h

end RuleBook.Notation
