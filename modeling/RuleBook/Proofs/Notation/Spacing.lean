import RuleBook.Proofs.Notation.Layout

/-!
# Layout as it is written

Blanks, line breaks and comments in any number and order.  Layout in front of a text is
passed over to the end and no further, wherever the reader looks for a separator, a closing
bracket or the end of a scalar.
-/

namespace RuleBook.Notation

open Reader

inductive Pieces (Piece : List Char → Prop) : List Char → Prop
  | nil : Pieces Piece []
  | cons {piece rest : List Char} (hpiece : Piece piece) (hrest : Pieces Piece rest) :
      Pieces Piece (piece ++ rest)

theorem Pieces.single {Piece : List Char → Prop} {piece : List Char} (h : Piece piece) :
    Pieces Piece piece := by
  have hcons := Pieces.cons h .nil
  rwa [List.append_nil] at hcons

/-- A blank, or a block comment, whose inside does not close it early. -/
inductive IsInlinePiece : List Char → Prop
  | space : IsInlinePiece [' ']
  | tab : IsInlinePiece ['\t']
  | comment {inside : List Char} (hinside : ¬['*', '/'] <:+: inside) :
      IsInlinePiece ('/' :: '*' :: (inside ++ ['*', '/']))

inductive IsLineComment : List Char → Prop
  | hash {inside : List Char} (hinside : ∀ c ∈ inside, isLineBreak c = false) :
      IsLineComment ('#' :: inside)
  | slashes {inside : List Char} (hinside : ∀ c ∈ inside, isLineBreak c = false) :
      IsLineComment ('/' :: '/' :: inside)

inductive IsGapPiece : List Char → Prop
  | inline {piece : List Char} (hpiece : IsInlinePiece piece) : IsGapPiece piece
  | lineBreak {c : Char} (hbreak : isLineBreak c = true) : IsGapPiece [c]
  | lineComment {comment : List Char} {c : Char} (hcomment : IsLineComment comment)
      (hbreak : isLineBreak c = true) : IsGapPiece (comment ++ [c])

abbrev Inline : List Char → Prop := Pieces IsInlinePiece

/-- Layout over any number of lines. -/
abbrev Gap : List Char → Prop := Pieces IsGapPiece

/-- What stands between two members, up to layout. -/
inductive IsSeparator : List Char → Prop
  | comma : IsSeparator [',']
  | lineBreak {c : Char} (hbreak : isLineBreak c = true) : IsSeparator [c]
  | lineComment {comment : List Char} {c : Char} (hcomment : IsLineComment comment)
      (hbreak : isLineBreak c = true) : IsSeparator (comment ++ [c])

theorem Inline.gap {inline : List Char} (h : Inline inline) : Gap inline := by
  induction h with
  | nil => exact .nil
  | cons hpiece _ ih => exact .cons (.inline hpiece) ih

theorem inline_of_blanks {blanks : List Char} (h : ∀ b ∈ blanks, b = ' ' ∨ b = '\t') :
    Inline blanks := by
  induction blanks with
  | nil => exact .nil
  | cons b blanks ih =>
      obtain ⟨hb, hblanks⟩ := List.forall_mem_cons.1 h
      rcases hb with rfl | rfl
      · exact .cons .space (ih hblanks)
      · exact .cons .tab (ih hblanks)

theorem skipMany_eq {step : List Char → Option (List Char)}
    (hstep : ∀ text rest, step text = some rest → rest.length < text.length)
    {fuel fuel' : Nat} {text : List Char} (hfuel : text.length ≤ fuel)
    (hfuel' : text.length ≤ fuel') : skipMany step fuel text = skipMany step fuel' text := by
  induction fuel generalizing text fuel' with
  | zero =>
      have hnone : step text = none := by
        cases h : step text with
        | none => rfl
        | some rest =>
            have hlt := hstep text rest h
            omega
      rw [skipMany_of_none hnone, skipMany_of_none hnone]
  | succ fuel ih =>
      cases h : step text with
      | none => rw [skipMany_of_none h, skipMany_of_none h]
      | some rest =>
          have hlt := hstep text rest h
          obtain ⟨fuel', rfl⟩ : ∃ n, fuel' = n + 1 := ⟨fuel' - 1, by omega⟩
          rw [skipMany, skipMany, h]
          exact ih (by omega) (by omega)

theorem skipMany_of_some {step : List Char → Option (List Char)}
    (hstep : ∀ text rest, step text = some rest → rest.length < text.length)
    {text rest : List Char} (h : step text = some rest) :
    skipMany step text.length text = skipMany step rest.length rest := by
  have hlt := hstep text rest h
  obtain ⟨n, hn⟩ : ∃ n, text.length = n + 1 := ⟨text.length - 1, by omega⟩
  rw [hn, skipMany, h]
  exact skipMany_eq hstep (by omega) (Nat.le_refl _)

private theorem takeBlank?_length {text rest : List Char} (h : takeBlank? text = some rest) :
    rest.length < text.length := by
  unfold takeBlank? at h
  split at h <;> cases h <;> simp

private theorem takeLineComment?_length {text rest : List Char}
    (h : takeLineComment? text = some rest) : rest.length < text.length := by
  unfold takeLineComment? at h
  split at h <;> cases h
  · exact Nat.lt_succ_of_le (List.dropWhile_suffix _).length_le
  · exact Nat.lt_succ_of_le (Nat.le_succ_of_le (List.dropWhile_suffix _).length_le)

private theorem takeBlockComment?_length {text rest : List Char}
    (h : takeBlockComment? text = some rest) : rest.length < text.length := by
  unfold takeBlockComment? at h
  split at h
  · exact Nat.lt_succ_of_le (Nat.le_succ_of_le (afterBlock?_suffix h).length_le)
  · cases h

theorem skipInline_step {text rest : List Char} (h : inlineStep text = some rest) :
    skipInline text = skipInline rest := by
  have hlength : ∀ text rest, inlineStep text = some rest → rest.length < text.length := by
    intro text rest h
    rw [inlineStep, Option.orElse_eq_orElse, Option.orElse_eq_or, Option.or_eq_some_iff] at h
    rcases h with h | ⟨-, h⟩
    · exact takeBlank?_length h
    · exact takeBlockComment?_length h
  exact skipMany_of_some hlength h

theorem skipLayout_step {text rest : List Char} (h : layoutStep text = some rest) :
    skipLayout text = skipLayout rest := by
  have hlength : ∀ text rest, layoutStep text = some rest → rest.length < text.length := by
    intro text rest h
    simp only [layoutStep, Option.orElse_eq_orElse, Option.orElse_eq_or,
      Option.or_eq_some_iff] at h
    rcases h with h | ⟨-, h | ⟨-, h | ⟨-, h⟩⟩⟩
    · exact takeBlank?_length h
    · exact takeLineBreak?_length h
    · exact takeLineComment?_length h
    · exact takeBlockComment?_length h
  exact skipMany_of_some hlength h

theorem afterBlock?_cons {c : Char} {text : List Char} (h : c = '*' → text.head? ≠ some '/') :
    afterBlock? (c :: text) = afterBlock? text := by
  rw [afterBlock?]
  rintro rest rfl rfl
  exact h rfl rfl

theorem afterBlock?_append {inside : List Char} (h : ¬['*', '/'] <:+: inside) (rest : List Char) :
    afterBlock? (inside ++ '*' :: '/' :: rest) = some rest := by
  induction inside with
  | nil => rfl
  | cons c inside ih =>
      have hinside : ¬['*', '/'] <:+: inside := fun hoccurs =>
        h (hoccurs.trans (List.suffix_cons c inside).isInfix)
      rw [List.cons_append, afterBlock?_cons, ih hinside]
      rintro rfl hslash
      cases inside with
      | nil => cases hslash
      | cons d inside =>
          obtain rfl := Option.some.inj hslash
          exact h ⟨[], inside, rfl⟩

theorem takeLineComment?_append {comment : List Char} {c : Char} (h : IsLineComment comment)
    (hbreak : isLineBreak c = true) (rest : List Char) :
    takeLineComment? (comment ++ c :: rest) = some (c :: rest) := by
  have hdrop : ∀ inside : List Char, (∀ d ∈ inside, isLineBreak d = false) →
      (inside ++ c :: rest).dropWhile (!isLineBreak ·) = c :: rest := by
    intro inside hinside
    rw [List.dropWhile_append_of_pos (fun d hd => by simp [hinside d hd]), List.dropWhile_cons]
    simp [hbreak]
  cases h with
  | hash hinside => exact congrArg some (hdrop _ hinside)
  | slashes hinside => exact congrArg some (hdrop _ hinside)

theorem takeLineBreak?_break {c : Char} (hbreak : isLineBreak c = true) (rest : List Char) :
    ∃ after, takeLineBreak? (c :: rest) = some after ∧ skipLayout after = skipLayout rest := by
  have hc : c = '\n' ∨ c = '\r' := by simpa [isLineBreak] using hbreak
  rcases hc with rfl | rfl
  · exact ⟨rest, rfl, rfl⟩
  · cases rest with
    | nil => exact ⟨[], rfl, rfl⟩
    | cons d rest =>
        by_cases hd : d = '\n'
        · subst hd
          exact ⟨rest, rfl, (skipLayout_step rfl).symm⟩
        · refine ⟨d :: rest, ?_, rfl⟩
          unfold takeLineBreak?
          split <;> simp_all

theorem Pieces.skip_eq {Piece : List Char → Prop} {skip : List Char → List Char} {text : List Char}
    (hpiece : ∀ piece, Piece piece → ∀ rest, skip (piece ++ rest) = skip rest)
    (h : Pieces Piece text) (rest : List Char) : skip (text ++ rest) = skip rest := by
  induction h with
  | nil => rfl
  | cons hfirst _ ih => rw [List.append_assoc, hpiece _ hfirst, ih]

theorem IsInlinePiece.steps {piece : List Char} (h : IsInlinePiece piece) (rest : List Char) :
    inlineStep (piece ++ rest) = some rest ∧ layoutStep (piece ++ rest) = some rest := by
  cases h with
  | space => exact ⟨rfl, rfl⟩
  | tab => exact ⟨rfl, rfl⟩
  | @comment inside hinside =>
      have hcomment : takeBlockComment? ('/' :: '*' :: (inside ++ ['*', '/']) ++ rest) =
          some rest := by simpa [takeBlockComment?] using afterBlock?_append hinside rest
      exact ⟨hcomment, hcomment⟩

theorem skipInline_inline {inline : List Char} (h : Inline inline) (rest : List Char) :
    skipInline (inline ++ rest) = skipInline rest :=
  h.skip_eq (fun _ hpiece rest => skipInline_step (hpiece.steps rest).1) rest

theorem skipLayout_lineBreak {c : Char} (hbreak : isLineBreak c = true) (rest : List Char) :
    skipLayout (c :: rest) = skipLayout rest := by
  obtain ⟨after, hafter, hskip⟩ := takeLineBreak?_break hbreak rest
  have hstep : layoutStep (c :: rest) = some after := by
    have hblank : takeBlank? (c :: rest) = none :=
      takeBlank?_cons (by constructor <;> rintro rfl <;> cases hbreak) rest
    rw [layoutStep, hblank, hafter]
    rfl
  rw [skipLayout_step hstep, hskip]

theorem skipLayout_lineComment {comment : List Char} {c : Char} (h : IsLineComment comment)
    (hbreak : isLineBreak c = true) (rest : List Char) :
    skipLayout (comment ++ c :: rest) = skipLayout rest := by
  have hcomment := takeLineComment?_append h hbreak rest
  have hstep : layoutStep (comment ++ c :: rest) = some (c :: rest) := by
    have hblank : takeBlank? (comment ++ c :: rest) = none := by cases h <;> rfl
    have hnoBreak : takeLineBreak? (comment ++ c :: rest) = none := by cases h <;> rfl
    rw [layoutStep, hblank, hnoBreak, hcomment]
    rfl
  rw [skipLayout_step hstep, skipLayout_lineBreak hbreak]

theorem skipLayout_gap {gap : List Char} (h : Gap gap) (rest : List Char) :
    skipLayout (gap ++ rest) = skipLayout rest := by
  refine h.skip_eq (fun piece hpiece rest => ?_) rest
  cases hpiece with
  | inline hpiece => exact skipLayout_step (hpiece.steps rest).2
  | lineBreak hbreak => exact skipLayout_lineBreak hbreak rest
  | lineComment hcomment hbreak =>
      rw [List.append_assoc]
      exact skipLayout_lineComment hcomment hbreak rest

theorem skipInline_lineBreak {c : Char} (hbreak : isLineBreak c = true) (rest : List Char) :
    skipInline (c :: rest) = c :: rest :=
  skipInline_cons (by refine ⟨?_, ?_, ?_⟩ <;> rintro rfl <;> cases hbreak) rest

theorem skipInline_lineComment {comment : List Char} (h : IsLineComment comment)
    (rest : List Char) : skipInline (comment ++ rest) = comment ++ rest := by
  cases h with
  | hash => exact skipInline_cons (by decide) _
  | slashes => exact skipMany_of_none rfl _

theorem mayEnd_iff {text : List Char} :
    MayEnd text ↔ skipInline text = [] ∨ endsScalar (skipInline text) = true := by
  rw [MayEnd, valueEnd, read_bind, read_skip, Option.bind_some, read_orElse, read_expect]
  cases h : skipInline text with
  | nil => exact iff_of_true rfl (.inl rfl)
  | cons c rest =>
      by_cases hends : endsScalar (c :: rest) = true <;> simp [hends, endOfText]

theorem mayEnd_inline {inline rest : List Char} (h : Inline inline) :
    MayEnd (inline ++ rest) ↔ MayEnd rest := by
  rw [mayEnd_iff, mayEnd_iff, skipInline_inline h]

theorem mayEnd_separator {separator : List Char} (h : IsSeparator separator) (rest : List Char) :
    MayEnd (separator ++ rest) := by
  cases h with
  | comma => exact AtEnd.mayEnd (.inl rfl)
  | @lineBreak c hbreak =>
      obtain ⟨after, hafter, -⟩ := takeLineBreak?_break hbreak rest
      refine mayEnd_iff.2 (.inr ?_)
      rw [List.singleton_append, skipInline_lineBreak hbreak]
      unfold endsScalar
      split <;> simp [hafter]
  | @lineComment comment c hcomment hbreak =>
      have htake := takeLineComment?_append hcomment hbreak rest
      refine mayEnd_iff.2 (.inr ?_)
      rw [List.append_assoc, skipInline_lineComment hcomment]
      rw [List.singleton_append]
      unfold endsScalar
      split <;> simp [htake]

theorem Gap.inline_or_separator {gap : List Char} (h : Gap gap) :
    Inline gap ∨ ∃ inline separator more, gap = inline ++ (separator ++ more) ∧ Inline inline ∧
      IsSeparator separator ∧ separator.head? ≠ some ',' ∧ Gap more := by
  induction h with
  | nil => exact .inl .nil
  | @cons piece rest hpiece hrest ih =>
      cases hpiece with
      | inline hpiece =>
          rcases ih with ih | ⟨inline, separator, more, rfl, hinline, hseparator, hcomma, hmore⟩
          · exact .inl (.cons hpiece ih)
          · exact .inr ⟨piece ++ inline, separator, more, by simp, .cons hpiece hinline,
              hseparator, hcomma, hmore⟩
      | lineBreak hbreak =>
          refine .inr ⟨[], _, rest, rfl, .nil, .lineBreak hbreak, ?_, hrest⟩
          rintro ⟨⟩
          cases hbreak
      | lineComment hcomment hbreak =>
          refine .inr ⟨[], _, rest, rfl, .nil, .lineComment hcomment hbreak, ?_, hrest⟩
          cases hcomment <;> simp

theorem mayEnd_gap {gap rest : List Char} (h : Gap gap) (hrest : MayEnd rest) :
    MayEnd (gap ++ rest) := by
  rcases h.inline_or_separator with hinline | ⟨inline, separator, more, rfl, hinline, hseparator, -⟩
  · exact (mayEnd_inline hinline).2 hrest
  · rw [List.append_assoc, List.append_assoc]
    exact (mayEnd_inline hinline).2 (mayEnd_separator hseparator _)

theorem takeSeparator?_inline {inline : List Char} (h : Inline inline) (rest : List Char) :
    takeSeparator? (inline ++ rest) = takeSeparator? rest := by
  rw [takeSeparator?, takeSeparator?, skipInline_inline h]

theorem takeTrailingComma?_inline {inline : List Char} (h : Inline inline) (rest : List Char) :
    takeTrailingComma? (inline ++ rest) = takeTrailingComma? rest := by
  rw [takeTrailingComma?, takeTrailingComma?, skipInline_inline h]

theorem takeSeparator?_separator {separator : List Char} (h : IsSeparator separator)
    (rest : List Char) : takeSeparator? (separator ++ rest) = some (skipLayout rest) := by
  cases h with
  | comma => exact takeSeparator?_comma rest
  | @lineBreak c hbreak =>
      obtain ⟨after, hafter, hskip⟩ := takeLineBreak?_break hbreak rest
      have hcomment : takeLineComment? (c :: rest) = none :=
        takeLineComment?_cons (by constructor <;> rintro rfl <;> cases hbreak) rest
      rw [List.singleton_append, takeSeparator?, skipInline_lineBreak hbreak]
      unfold takeBreak?
      split
      · next heq =>
        obtain ⟨rfl, -⟩ := List.cons.inj heq
        cases hbreak
      · rw [hcomment, Option.getD_none, hafter, Option.map_some, hskip]
  | @lineComment comment c hcomment hbreak =>
      obtain ⟨after, hafter, hskip⟩ := takeLineBreak?_break hbreak rest
      have htake := takeLineComment?_append hcomment hbreak rest
      rw [List.append_assoc, takeSeparator?, skipInline_lineComment hcomment, List.singleton_append]
      unfold takeBreak?
      split
      · next heq => cases hcomment <;> cases heq
      · rw [htake, Option.getD_some, hafter, Option.map_some, hskip]

theorem takeSeparator?_gap_closing {gap : List Char} {closing : Char} (h : Gap gap)
    (hclosing : closing = ']' ∨ closing = '\x7d') (rest : List Char) :
    takeSeparator? (gap ++ closing :: rest) = none ∨
      takeSeparator? (gap ++ closing :: rest) = some (closing :: rest) := by
  have hstop : skipLayout (closing :: rest) = closing :: rest :=
    skipLayout_cons (by rcases hclosing with rfl | rfl <;> decide) rest
  rcases h.inline_or_separator with hinline |
    ⟨inline, separator, more, rfl, hinline, hseparator, -, hmore⟩
  · rw [takeSeparator?_inline hinline]
    exact .inl (takeSeparator?_closing hclosing rest)
  · right
    rw [List.append_assoc, List.append_assoc, takeSeparator?_inline hinline,
      takeSeparator?_separator hseparator, skipLayout_gap hmore, hstop]

theorem takeTrailingComma?_gap_closing {gap : List Char} {closing : Char} (h : Gap gap)
    (hclosing : closing = ']' ∨ closing = '\x7d') (rest : List Char) :
    takeTrailingComma? (gap ++ closing :: rest) = none := by
  rcases h.inline_or_separator with hinline |
    ⟨inline, separator, more, rfl, hinline, hseparator, hcomma, -⟩
  · rw [takeTrailingComma?_inline hinline]
    exact takeTrailingComma?_closing hclosing rest
  · rw [List.append_assoc, List.append_assoc, takeTrailingComma?_inline hinline,
      takeTrailingComma?]
    cases hseparator with
    | comma => exact absurd rfl hcomma
    | lineBreak hbreak =>
        rw [List.singleton_append, skipInline_lineBreak hbreak]
        split
        · next heq =>
          obtain ⟨rfl, -⟩ := List.cons.inj heq
          exact absurd rfl hcomma
        · rfl
    | lineComment hcomment hbreak =>
        rw [List.append_assoc, skipInline_lineComment hcomment]
        cases hcomment <;> rfl

end RuleBook.Notation
