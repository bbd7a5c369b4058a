import RuleBook.Proofs.Notation.Arithmetic
import RuleBook.Proofs.Notation.Spacing

/-!
# Scalars before a closing bracket

A text with no brackets, commas, line breaks and comments in it is read before a closing
bracket as it is read alone, and the bracket is left.  This goes up from the forms to the
readers, except that the source of a regex literal may take the bracket along; but then no
slash closes it, with the bracket or without.
-/

namespace RuleBook.Notation

open Reader Form

structure Bare (text : List Char) : Prop where
  not_mem : ∀ c ∈ text, c ∉ ",[]\x7b\x7d#\n\r".toList
  lineComment : ¬"//".toList <:+: text
  blockComment : ¬"/*".toList <:+: text

theorem Bare.of_suffix {text rest : List Char} (h : Bare text) (hrest : rest <:+ text) : Bare rest where
  not_mem c hc := h.not_mem c (hrest.subset hc)
  lineComment hcomment := h.lineComment (hcomment.trans hrest.isInfix)
  blockComment hcomment := h.blockComment (hcomment.trans hrest.isInfix)

structure Stops (closing : Char) {α : Type} (f : List Char → Option (α × List Char)) : Prop where
  append : ∀ {text}, Bare text →
    f (text ++ [closing]) = (f text).map fun found => (found.1, found.2 ++ [closing])
  suffix : ∀ {text a rest}, f text = some (a, rest) → rest <:+ text

namespace Stops

variable {closing : Char} {α β : Type}

/-! ## Putting functions together -/

theorem bind {f : List Char → Option (α × List Char)} {g : α → List Char → Option (β × List Char)}
    (hf : Stops closing f) (hg : ∀ a, Stops closing (g a)) :
    Stops closing fun text => (f text).bind fun found => g found.1 found.2 where
  append {text} h := by
    rw [hf.append h]
    cases hfound : f text with
    | none => rfl
    | some found => exact (hg found.1).append (h.of_suffix (hf.suffix hfound))
  suffix h := by
    obtain ⟨found, hfound, hrest⟩ := Option.bind_eq_some_iff.1 h
    exact ((hg found.1).suffix hrest).trans (hf.suffix hfound)

theorem map {f : List Char → Option (α × List Char)} (hf : Stops closing f) (g : α → β) :
    Stops closing fun text => (f text).map fun found => (g found.1, found.2) where
  append {text} h := by
    rw [hf.append h]
    cases f text <;> rfl
  suffix h := by
    obtain ⟨found, hfound, heq⟩ := Option.map_eq_some_iff.1 h
    cases heq
    exact hf.suffix hfound

theorem or {f g : List Char → Option (α × List Char)} (hf : Stops closing f)
    (hg : Stops closing g) : Stops closing fun text => (f text).or (g text) where
  append {text} h := by
    rw [hf.append h, hg.append h]
    cases f text <;> rfl
  suffix h := by
    rcases Option.or_eq_some_iff.1 h with h | ⟨-, h⟩
    · exact hf.suffix h
    · exact hg.suffix h

theorem pure (a : α) : Stops closing fun text => some (a, text) where
  append _ := rfl
  suffix h := by
    cases h
    exact List.suffix_refl _

theorem congr {f g : List Char → Option (α × List Char)} (hf : Stops closing f)
    (h : ∀ text, g text = f text) : Stops closing g := (funext h : g = f) ▸ hf

theorem head {f : List Char → Option (α × List Char)} (hnil : f [] = none)
    (hclosing : f [closing] = none)
    (hcons : ∀ c text, f (c :: text) = (f [c]).map fun found => (found.1, text)) :
    Stops closing f where
  append {text} _ := by
    cases text with
    | nil => rw [List.nil_append, hclosing, hnil, Option.map_none]
    | cons c text =>
        rw [List.cons_append, hcons c (text ++ [closing]), hcons c text, Option.map_map]
        rfl
  suffix {text a rest} h := by
    cases text with
    | nil =>
        rw [hnil] at h
        cases h
    | cons c text =>
        rw [hcons] at h
        obtain ⟨found, -, heq⟩ := Option.map_eq_some_iff.1 h
        cases heq
        exact List.suffix_cons _ _

/-! ## Forms -/

section

variable {f g : Form}

theorem andThen (hf : Stops closing f) (hg : Stops closing g) : Stops closing (andThen f g) :=
  (hf.bind fun first => hg.map (first ++ ·)).congr (andThen_apply f g)

theorem orElse (hf : Stops closing f) (hg : Stops closing g) : Stops closing (orElse f g) :=
  (hf.or hg).congr fun _ => Option.orElse_eq_or

theorem optional (hf : Stops closing f) : Stops closing (optional f) := hf.orElse (pure [])

theorem word {w : String} (hw : closing ∉ w.toList) : Stops closing (word w) where
  append {text} _ := by
    cases h : Form.word w text with
    | some found =>
        obtain ⟨a, rest⟩ := found
        obtain ⟨rfl, rfl⟩ := word_inv h
        rw [List.append_assoc, word_append]
        rfl
    | none =>
        rw [Option.map_none, Option.eq_none_iff_forall_ne_some]
        rintro ⟨a, rest⟩ happend
        obtain ⟨-, htext⟩ := word_inv happend
        rcases List.append_eq_append_iff.1 htext with ⟨more, hmore, hrest⟩ | ⟨more, rfl, -⟩
        · cases more with
          | nil =>
              rw [List.append_nil] at hmore
              rw [← hmore, ← List.append_nil w.toList, word_append] at h
              cases h
          | cons d more =>
              obtain ⟨rfl, -⟩ := List.cons.inj hrest
              exact hw (hmore ▸ by simp)
        · rw [word_append] at h
          cases h
  suffix h := by
    obtain ⟨-, rfl⟩ := word_inv h
    exact List.suffix_append _ _

variable {test : Char → Bool}

theorem takeRun (htest : test closing = false) : Stops closing (takeRun test) where
  append {text} _ := by
    have hsplit := List.takeWhile_append_dropWhile (p := test) (l := text)
    have hstop : ∀ c ∈ (text.dropWhile test ++ [closing]).head?, test c = false := by
      intro c hc
      cases hrest : text.dropWhile test with
      | nil =>
          rw [hrest] at hc
          obtain rfl := Option.some.inj hc
          exact htest
      | cons d rest =>
          rw [hrest] at hc
          obtain rfl := Option.some.inj hc
          have hne : text.dropWhile test ≠ [] := hrest ▸ List.cons_ne_nil _ _
          have hhead := List.head_dropWhile_not test hne
          simpa [hrest] using hhead
    have hrun := takeRun_append
      (fun c hc => List.all_eq_true.1 (@List.all_takeWhile _ test text) c hc) hstop
    rw [← List.append_assoc, hsplit] at hrun
    rw [hrun, Notation.takeRun, List.span_eq_takeWhile_dropWhile]
    rfl
  suffix h := ⟨_, (takeRun_splits test _ _ _ h).symm⟩

theorem takeRun1?_eq (test : Char → Bool) (text : List Char) :
    takeRun1? test text = (Notation.takeRun test text).bind fun found =>
      if found.1 = [] then none else some found := by
  rw [takeRun1?, Notation.takeRun, Option.bind_some]
  split
  · next heq => rw [heq, if_pos rfl]
  · next hne heq => rw [heq, if_neg hne]

theorem takeRun1? (htest : test closing = false) : Stops closing (takeRun1? test) := by
  refine ((takeRun htest).bind (g := fun run rest => if run = [] then none else some (run, rest))
    fun run => ?_).congr (takeRun1?_eq test)
  by_cases h : run = []
  · exact ⟨fun _ => by simp [h], fun heq => by simp [h] at heq⟩
  · exact (pure run).congr fun rest => if_neg h

theorem takeChar? (htest : test closing = false) : Stops closing (takeChar? test) := by
  refine head rfl ?_ fun c text => ?_
  · rw [Notation.takeChar?, if_neg (by simp [htest])]
  · rw [Notation.takeChar?, Notation.takeChar?]
    split <;> rfl

theorem takeDigits? (hdigit : closing.isDigit = false) (count : Nat) :
    Stops closing (takeDigits? count) where
  append {text} _ := by
    by_cases hcount : count ≤ text.length
    · simp only [Notation.takeDigits?, List.take_append_of_le_length hcount,
        List.drop_append_of_le_length hcount]
      split <;> rfl
    · have htake : (text ++ [closing]).take count = text ++ [closing] :=
        List.take_of_length_le (by rw [List.length_append, List.length_singleton]; omega)
      rw [Notation.takeDigits?, Notation.takeDigits?, if_neg, if_neg]
      · rfl
      · rintro ⟨hlength, -⟩
        rw [List.length_take] at hlength
        omega
      · rw [htake, List.all_append]
        simp [hdigit]
  suffix {text a rest} h := by
    rw [Notation.takeDigits?] at h
    split at h
    · cases h
      exact List.drop_suffix _ _
    · cases h

end

/-! ## Readers -/

section

variable {p : Reader α}

theorem maybe (hp : Stops closing (read p)) : Stops closing (read (Reader.optional p)) where
  append {text} h := by
    rw [read_optional, read_optional, hp.append h]
    cases read p text <;> rfl
  suffix h := Moves.optional isPassage_suffix (fun _ _ _ => hp.suffix) _ _ _ h

theorem many (hp : Stops closing (read p)) (hshort : Shortens p) :
    Stops closing (read (many p)) where
  append {text} h := by
    induction hlen : text.length using Nat.strongRecOn generalizing text with
    | _ n ih =>
        have hfirst := hp.append h
        cases hread : read p text with
        | none =>
            rw [hread] at hfirst
            rw [read_many_of_none hfirst, read_many_of_none hread]
            rfl
        | some found =>
            have hlt := hshort _ _ _ hread
            have hmore := ih found.2.length (by omega) (h.of_suffix (hp.suffix hread)) rfl
            rw [hread] at hfirst
            rw [read_many_of_some hshort hfirst, read_many_of_some hshort hread, hmore,
              Option.map_map, Option.map_map]
            rfl
  suffix h := Moves.many isPassage_suffix (fun _ _ _ => hp.suffix) _ _ _ h

theorem char {d : Char} (hd : closing ≠ d) : Stops closing (read (char d)) := by
  refine head rfl ?_ fun c text => ?_
  · rw [read_char_cons, if_neg hd]
  · rw [read_char_cons, read_char_cons]
    split <;> rfl

theorem refusing {f : List Char → Option (α × List Char)} {g : List Char → Option (β × List Char)}
    (hf : Stops closing f) (hg : Stops closing g) :
    Stops closing fun text => if (f text).isSome then none else g text where
  append {text} h := by
    rw [hf.append h, hg.append h, Option.isSome_map]
    split <;> rfl
  suffix {text a rest} h := by
    split at h
    · cases h
    · exact hg.suffix h

end

end Stops

/-! ## Scalars -/

section

variable {closing : Char} (hclosing : closing = ']' ∨ closing = '\x7d')

include hclosing

private theorem of_closing {P : Char → Prop} (h : P ']' ∧ P '\x7d') : P closing := by
  rcases hclosing with rfl | rfl
  · exact h.1
  · exact h.2

private theorem stops_word {w : String} (hw : ']' ∉ w.toList ∧ '\x7d' ∉ w.toList) :
    Stops closing (word w) := .word (of_closing (P := (· ∉ w.toList)) hclosing hw)

private theorem stops_takeRun {test : Char → Bool} (h : test ']' = false ∧ test '\x7d' = false) :
    Stops closing (takeRun test) := .takeRun (of_closing (P := (test · = false)) hclosing h)

private theorem stops_takeRun1? {test : Char → Bool}
    (h : test ']' = false ∧ test '\x7d' = false) : Stops closing (takeRun1? test) :=
  .takeRun1? (of_closing (P := (test · = false)) hclosing h)

private theorem stops_takeChar? {test : Char → Bool}
    (h : test ']' = false ∧ test '\x7d' = false) : Stops closing (takeChar? test) :=
  .takeChar? (of_closing (P := (test · = false)) hclosing h)

theorem stops_digits1 : Stops closing digits1 := stops_takeRun1? hclosing (by decide)

theorem stops_sign : Stops closing sign := stops_takeChar? hclosing (by decide)

theorem stops_wholeForm : Stops closing wholeForm := by
  refine ((stops_word hclosing (w := "0") (by decide)).orElse
    (stops_digits1 hclosing)).congr fun text => ?_
  cases text with
  | nil => rfl
  | cons c text =>
      by_cases hc : c = '0'
      · subst hc
        rfl
      · have hnone : word "0" (c :: text) = none := word_none (show "0".toList = ['0'] from rfl) hc text
        rw [Form.orElse, hnone]
        unfold wholeForm
        split
        · next heq => exact absurd (List.cons.inj heq).1 hc
        · rfl

theorem stops_exponentForm : Stops closing exponentForm :=
  (stops_takeChar? hclosing (by decide)).andThen (stops_sign hclosing).optional
    |>.andThen (stops_digits1 hclosing)

theorem stops_fractionForm : Stops closing (optional (andThen (word ".") digits1)) :=
  ((stops_word hclosing (by decide)).andThen (stops_digits1 hclosing)).optional

theorem stops_numberForm : Stops closing numberForm :=
  ((stops_word hclosing (by decide)).optional.andThen (stops_wholeForm hclosing)).andThen
    (stops_fractionForm hclosing) |>.andThen (stops_exponentForm hclosing).optional

theorem stops_hexForm : Stops closing hexForm :=
  ((stops_word hclosing (by decide)).optional.andThen (stops_word hclosing (by decide))).andThen
    (stops_takeChar? hclosing (by decide)) |>.andThen
      (stops_takeRun1? hclosing (by decide))

theorem stops_dateForm : Stops closing dateForm := by
  have hdigits (count : Nat) : Stops closing (takeDigits? count) :=
    .takeDigits? (of_closing (P := (·.isDigit = false)) hclosing (by decide)) count
  have hhyphen : Stops closing (word "-") := stops_word hclosing (by decide)
  have hcolon : Stops closing (word ":") := stops_word hclosing (by decide)
  have hclock : Stops closing clockForm :=
    (((hdigits 2).andThen hcolon).andThen (hdigits 2)).andThen hcolon |>.andThen (hdigits 2)
  have hoffset : Stops closing offsetForm :=
    (stops_word hclosing (by decide)).orElse
      (((stops_sign hclosing).andThen (hdigits 2)).andThen hcolon |>.andThen (hdigits 2))
  have htime : Stops closing
      (sequence (word "T") [clockForm, optional (andThen (word ".") digits1), offsetForm]) :=
    ((stops_word hclosing (by decide)).andThen hclock).andThen (stops_fractionForm hclosing)
      |>.andThen hoffset
  exact ((((hdigits 4).andThen hhyphen).andThen (hdigits 2)).andThen hhyphen).andThen (hdigits 2)
    |>.andThen htime.optional

theorem stops_specialForm : Stops closing specialForm :=
  ((stops_sign hclosing).optional.andThen (stops_word hclosing (by decide))).orElse
    (stops_word hclosing (by decide))

theorem stops_constantForm : Stops closing constantForm :=
  (stops_word hclosing (by decide)).orElse
    ((stops_word hclosing (by decide)).orElse (stops_word hclosing (by decide)))

theorem stops_plainForm : Stops closing plainForm where
  append {text} h := by
    cases text with
    | nil =>
        have hnone : plainForm [closing] = none := by rcases hclosing with rfl | rfl <;> rfl
        rw [List.nil_append, hnone]
        rfl
    | cons c text =>
        have hstops : Stops closing
            (takeRun1? fun c => !(",\x7d]".toList.contains c || isLineBreak c)) :=
          stops_takeRun1? hclosing (by decide)
        have hrun := hstops.append h
        rw [List.cons_append] at hrun ⊢
        rw [plainForm, plainForm]
        split
        · rfl
        · exact hrun
  suffix h := ⟨_, (plainForm_splits _ _ _ h).symm⟩

end

/-! ## Layout -/

namespace Bare

variable {c : Char} {text rest : List Char} (h : Bare (c :: text))

include h

theorem takeLineComment?_eq (hrest : rest.head? ≠ some '/') :
    takeLineComment? (c :: (text ++ rest)) = none := by
  unfold takeLineComment?
  split
  · next heq =>
    obtain ⟨rfl, -⟩ := List.cons.inj heq
    exact absurd (h.not_mem '#' (by simp)) (by decide)
  · next after heq =>
    obtain ⟨rfl, htext⟩ := List.cons.inj heq
    cases text with
    | nil => exact absurd (congrArg List.head? htext) hrest
    | cons d text =>
        obtain ⟨rfl, -⟩ := List.cons.inj htext
        exact absurd ⟨[], text, rfl⟩ h.lineComment
  · rfl

theorem takeBlockComment?_eq (hrest : rest.head? ≠ some '*') :
    takeBlockComment? (c :: (text ++ rest)) = none := by
  unfold takeBlockComment?
  split
  · next after heq =>
    obtain ⟨rfl, htext⟩ := List.cons.inj heq
    cases text with
    | nil => exact absurd (congrArg List.head? htext) hrest
    | cons d text =>
        obtain ⟨rfl, -⟩ := List.cons.inj htext
        exact absurd ⟨[], text, rfl⟩ h.blockComment
  · rfl

theorem takeLineBreak?_eq : takeLineBreak? (c :: (text ++ rest)) = none := by
  refine takeLineBreak?_cons ⟨?_, ?_⟩ _ <;> rintro rfl
  · exact absurd (h.not_mem '\n' (by simp)) (by decide)
  · exact absurd (h.not_mem '\r' (by simp)) (by decide)

theorem skipInline_eq (hc : c ≠ ' ' ∧ c ≠ '\t') (hrest : rest.head? ≠ some '*') :
    skipInline (c :: (text ++ rest)) = c :: (text ++ rest) := by
  refine skipMany_of_none ?_ _
  rw [takeBlank?_cons hc, h.takeBlockComment?_eq hrest]
  rfl

theorem skipLayout_eq (hc : c ≠ ' ' ∧ c ≠ '\t')
    (hrest : rest.head? ≠ some '*' ∧ rest.head? ≠ some '/') :
    skipLayout (c :: (text ++ rest)) = c :: (text ++ rest) := by
  refine skipMany_of_none ?_ _
  rw [takeBlank?_cons hc, h.takeLineBreak?_eq, h.takeLineComment?_eq hrest.2,
    h.takeBlockComment?_eq hrest.1]
  rfl

theorem endsScalar_eq (hrest : rest.head? ≠ some '/') : endsScalar (c :: (text ++ rest)) = false := by
  have hne := h.not_mem c (by simp)
  unfold endsScalar
  split
  · next heq =>
    obtain ⟨rfl, -⟩ := List.cons.inj heq
    exact absurd hne (by decide)
  · next heq =>
    obtain ⟨rfl, -⟩ := List.cons.inj heq
    exact absurd hne (by decide)
  · next heq =>
    obtain ⟨rfl, -⟩ := List.cons.inj heq
    exact absurd hne (by decide)
  · rw [h.takeLineBreak?_eq, h.takeLineComment?_eq hrest]
    rfl

end Bare

section

variable {closing : Char} (hclosing : closing = ']' ∨ closing = '\x7d')

include hclosing

theorem stops_skipInline : Stops closing (read (skip skipInline)) where
  append {text} h := by
    have hskip : skipInline (text ++ [closing]) = skipInline text ++ [closing] := by
      induction text with
      | nil =>
          exact skipInline_cons (of_closing hclosing
            (P := fun c => c ≠ ' ' ∧ c ≠ '\t' ∧ c ≠ '/') (by decide)) []
      | cons c text ih =>
          by_cases hc : c ≠ ' ' ∧ c ≠ '\t'
          · have halone : skipInline (c :: (text ++ [])) = c :: (text ++ []) :=
              h.skipInline_eq hc (by simp)
            rw [List.append_nil] at halone
            rw [halone]
            exact h.skipInline_eq hc (of_closing hclosing (P := ([·].head? ≠ some '*')) (by decide))
          · have hblank (more : List Char) : inlineStep (c :: more) = some more := by
              rw [not_and_or, not_not, not_not] at hc
              rcases hc with rfl | rfl <;> rfl
            rw [List.cons_append, skipInline_step (hblank _), skipInline_step (hblank _),
              ih (h.of_suffix (List.suffix_cons _ _))]
    rw [read_skip, read_skip, hskip]
    rfl
  suffix h := leaves_skipInline _ _ _ h

theorem stops_valueEnd : Stops closing (read valueEnd) := by
  refine Stops.congr ((stops_skipInline hclosing).bind (g := fun _ => read (orElse (expect fun text =>
    if endsScalar text then some text else none) endOfText)) fun _ => ⟨fun {text} h => ?_, ?_⟩)
    fun text => read_bind _ _ text
  · cases text with
    | nil =>
        have hend : endsScalar [closing] = true :=
          of_closing hclosing (P := (endsScalar [·] = true)) (by decide)
        rw [List.nil_append, read_orElse, read_expect, if_pos hend]
        rfl
    | cons c text =>
        have halone : endsScalar (c :: (text ++ [])) = false := h.endsScalar_eq (by simp)
        have hend : endsScalar (c :: (text ++ [closing])) = false := h.endsScalar_eq
          (of_closing hclosing (P := ([·].head? ≠ some '/')) (by decide))
        rw [List.append_nil] at halone
        simp [halone, hend, endOfText]
  · intro text a rest h
    rw [read_orElse, read_expect, Option.or_eq_some_iff] at h
    rcases h with h | ⟨-, h⟩
    · obtain ⟨rest', hrest, heq⟩ := Option.map_eq_some_iff.1 h
      cases heq
      split at hrest
      · cases hrest
        exact List.suffix_refl _
      · cases hrest
    · rw [endOfText, read_token] at h
      split at h <;> cases h
      exact List.suffix_refl _

/-! ## Arithmetic -/

theorem stops_chain {operation : Reader Operation} {operand : Reader (Except ParseError Float)}
    (hoperation : Stops closing (read operation)) (hshort : Shortens operation)
    (hoperand : Stops closing (read operand)) : Stops closing (read (chain operation operand)) := by
  have hinline := stops_skipInline hclosing
  have hstep : Stops closing (read (chainStep operation operand)) :=
    (hinline.bind fun _ => hoperation.bind fun found => hinline.bind fun _ =>
      hoperand.map fun value => (found, value)).congr fun text => read_chainStep _ _ text
  have hmany := hstep.many (shortens_chainStep hshort fun _ _ _ => hoperand.suffix)
  exact (hoperand.bind fun first => hmany.map (foldOperations first)).congr
    fun text => read_chain _ _ text

theorem stops_hexNumber : Stops closing (read hexNumber) :=
  ((stops_hexForm hclosing).map hexNumberOf).congr fun text => read_map _ _ text

theorem stops_number : Stops closing (read number) :=
  ((stops_numberForm hclosing).map numberOf).congr fun text => read_map _ _ text

theorem stops_factor {inner : Reader (Except ParseError Float)}
    (hinner : Stops closing (read inner)) : Stops closing (read (factor inner)) := by
  have hinline := stops_skipInline hclosing
  have hparenthesis (d : Char) (hd : ']' ≠ d ∧ '\x7d' ≠ d) : Stops closing (read (char d)) :=
    .char (of_closing hclosing (P := (· ≠ d)) hd)
  have hminus : Stops closing (read minus) := by
    refine .head rfl (of_closing hclosing (P := (read minus [·] = none)) ⟨rfl, rfl⟩) fun c text => ?_
    simp only [minus, read_token]
    split <;> split <;> simp_all
  have hgroup : Stops closing (read (group inner)) :=
    ((hparenthesis '(' (by decide)).bind fun _ => hinline.bind fun _ => hinner.bind fun value =>
      hinline.bind fun _ => (hparenthesis ')' (by decide)).map fun _ => value).congr
        fun text => read_group _ text
  have hunsigned : Stops closing (read (unsigned inner)) :=
    ((hgroup.or (stops_hexNumber hclosing)).or ((stops_number hclosing).map Except.ok)).congr
      fun text => by
        simp only [unsigned, firstOf, List.foldl_cons, List.foldl_nil, read_orElse, read_map]
  exact (hminus.maybe.bind fun negated => hunsigned.map (negateOf negated)).congr
    fun text => read_factor _ text

theorem stops_sumOperation : Stops closing (read sumOperation) := by
  refine .head rfl (of_closing hclosing (P := (read sumOperation [·] = none)) ⟨rfl, rfl⟩)
    fun c text => ?_
  simp only [sumOperation, read_token]
  split <;> split <;> simp_all

theorem stops_productOperation : Stops closing (read productOperation) := by
  refine .head rfl (of_closing hclosing (P := (read productOperation [·] = none)) ⟨rfl, rfl⟩)
    fun c text => ?_
  simp only [productOperation, read_token]
  split <;> split <;> simp_all

theorem stops_sum (fuel : Nat) : Stops closing (read (sum fuel)) := by
  induction fuel with
  | zero => exact ⟨fun _ => rfl, nofun⟩
  | succ fuel ih =>
      exact stops_chain hclosing (stops_sumOperation hclosing) shortens_sumOperation
        (stops_chain hclosing (stops_productOperation hclosing) shortens_productOperation
          (stops_factor hclosing ih))

theorem stops_arithmetic (fuel : Nat) : Stops closing (read (arithmetic fuel)) :=
  (((stops_specialForm hclosing).map fun text => .ok (specialOf text)).or
    (((stops_number hclosing).bind fun _ => stops_valueEnd hclosing).refusing
      (stops_sum hclosing fuel))).congr fun text => read_arithmetic fuel text

end

/-! ## Regular expressions -/

theorem SourceBefore.leavesOpen_eq {after source : List Char} (h : SourceBefore after source)
    (hbracket : '[' ∉ source) : leavesOpen false source = false := by
  induction h with
  | nil => rfl
  | escape _ _ ih => exact ih fun hmem => hbracket (by simp [hmem])
  | plain hc _ ih =>
      rw [leavesOpen_cons _ hc.2.2.1, if_neg hc.1, ite_self]
      exact ih fun hmem => hbracket (by simp [hmem])
  | closed _ _ _ => exact absurd List.mem_cons_self hbracket
  | opened _ _ _ => exact absurd List.mem_cons_self hbracket

def closedSource (text : List Char) : Option (List Char × List Char) :=
  (regexSourceForm text).bind fun found => (read (char '/') found.2).map fun rest => (found.1, rest.2)

theorem closedSource_eq_some {text source more : List Char} :
    closedSource text = some (source, more) ↔ text = source ++ '/' :: more ∧
      SourceBefore ('/' :: more) source ∧ source ≠ [] ∧ source.head? ≠ some '*' := by
  constructor
  · intro h
    obtain ⟨⟨source', after⟩, hsource, hslash⟩ := Option.bind_eq_some_iff.1 h
    obtain ⟨⟨u, rest⟩, hchar, heq⟩ := Option.map_eq_some_iff.1 hslash
    cases heq
    obtain ⟨hbefore, htext, hne, hstar⟩ := regexSourceForm_inv hsource
    obtain rfl : after = '/' :: rest := read_char_inv hchar
    exact ⟨htext, hbefore, hne, hstar⟩
  · rintro ⟨rfl, hbefore, hne, hstar⟩
    rw [closedSource, regexSourceForm_eq hbefore rfl hne hstar, Option.bind_some, read_char_self]
    rfl

theorem read_regexValue (text : List Char) :
    read regexValue text = (read (char '/') text).bind fun inside =>
      (closedSource inside.2).bind fun source =>
        (regexFlagsForm source.2).map fun flags => (regexOf source.1 flags.1, flags.2) := by
  rw [regexValue, read_rule, read_bind]
  congr 1
  funext inside
  rw [read_bind, read_token, closedSource, Option.bind_assoc]
  congr 1
  funext source
  rw [read_bind, Option.bind_map]
  rfl

section

variable {closing : Char} (hclosing : closing = ']' ∨ closing = '\x7d')

include hclosing

theorem stops_closedSource : Stops closing closedSource where
  append {text} h := by
    have hbracket {source more : List Char} (htext : text = source ++ '/' :: more) : '[' ∉ source :=
      fun hmem => h.not_mem '[' (by simp [htext, hmem]) (by decide)
    rw [Option.ext_iff]
    rintro ⟨source, more⟩
    rw [Option.map_eq_some_iff, closedSource_eq_some]
    constructor
    · rintro ⟨htext, hbefore, hsource⟩
      rcases List.eq_nil_or_concat more with rfl | ⟨more, c, rfl⟩
      · have hlast := congrArg List.getLast? htext
        rw [List.getLast?_append_cons, List.getLast?_append_cons] at hlast
        exact absurd (Option.some.inj hlast) (of_closing hclosing (P := (· ≠ '/')) (by decide))
      · rw [List.concat_eq_append, ← List.cons_append, ← List.append_assoc] at htext
        obtain ⟨hsplit, hlast⟩ := List.append_inj' htext rfl
        cases hlast
        refine ⟨(source, more), closedSource_eq_some.2 ⟨hsplit, hbefore.before fun hopen => ?_,
          hsource⟩, by rw [List.concat_eq_append]⟩
        rw [hbefore.leavesOpen_eq (hbracket hsplit)] at hopen
        cases hopen
    · rintro ⟨⟨source', more'⟩, hread, heq⟩
      cases heq
      obtain ⟨htext, hbefore, hsource⟩ := closedSource_eq_some.1 hread
      refine ⟨by rw [htext]; simp, hbefore.before fun hopen => ?_, hsource⟩
      rw [hbefore.leavesOpen_eq (hbracket htext)] at hopen
      cases hopen
  suffix h := by
    obtain ⟨htext, -⟩ := closedSource_eq_some.1 h
    exact ⟨_, by rw [htext, List.append_cons]⟩

theorem stops_regexValue : Stops closing (read regexValue) := by
  have hflags : Stops closing regexFlagsForm := stops_takeRun hclosing (by decide)
  exact ((Stops.char (of_closing hclosing (P := (· ≠ '/')) (by decide))).bind fun _ =>
    (stops_closedSource hclosing).bind fun source => hflags.map (regexOf source)).congr
      fun text => read_regexValue text

end

end RuleBook.Notation
