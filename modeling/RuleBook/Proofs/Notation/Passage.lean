import RuleBook.Proofs.Notation.Value

/-!
# What reading passes over

A value is read off the front of a text, so what is left is a tail of it.  Arithmetic
passes over no comma and no closing bracket outside comments.
-/

namespace RuleBook.Notation

open Reader Form

def isInner (c : Char) : Prop := c ≠ ',' ∧ c ≠ ']' ∧ c ≠ '\x7d'

instance (c : Char) : Decidable (isInner c) := inferInstanceAs (Decidable (_ ∧ _))

theorem isInner_of_isDigit {c : Char} (h : c.isDigit = true) : isInner c :=
  Text.forall_isDigit (by decide) h

private theorem isInner_of_test {test : Char → Bool}
    (h : test ',' = false ∧ test ']' = false ∧ test '\x7d' = false) (c : Char)
    (hc : test c = true) : isInner c := by
  obtain ⟨h1, h2, h3⟩ := h
  refine ⟨?_, ?_, ?_⟩ <;> rintro rfl <;> simp_all

theorem digits1_takes : Takes isInner digits1 := Takes.takeRun1? fun _ => isInner_of_isDigit

theorem sign_takes : Takes isInner sign := Takes.takeChar? (isInner_of_test (by decide))

theorem wholeForm_takes : Takes isInner wholeForm := by
  intro text a rest h
  unfold wholeForm at h
  split at h
  · cases h
    exact ⟨rfl, by simp [isInner]⟩
  · exact digits1_takes _ _ _ h

theorem exponentForm_takes : Takes isInner exponentForm := by
  refine Takes.sequence (Takes.takeChar? (isInner_of_test (by decide))) fun g hg => ?_
  simp only [List.mem_cons, List.not_mem_nil, or_false] at hg
  rcases hg with rfl | rfl
  · exact sign_takes.optional
  · exact digits1_takes

theorem numberForm_takes : Takes isInner numberForm := by
  refine Takes.sequence (Takes.word (by decide)).optional fun g hg => ?_
  simp only [List.mem_cons, List.not_mem_nil, or_false] at hg
  rcases hg with rfl | rfl | rfl
  · exact wholeForm_takes
  · exact ((Takes.word (by decide)).andThen digits1_takes).optional
  · exact exponentForm_takes.optional

theorem hexForm_takes : Takes isInner hexForm := by
  refine Takes.sequence (Takes.word (by decide)).optional fun g hg => ?_
  simp only [List.mem_cons, List.not_mem_nil, or_false] at hg
  rcases hg with rfl | rfl | rfl
  · exact Takes.word (by decide)
  · exact Takes.takeChar? (isInner_of_test (by decide))
  · exact Takes.takeRun1? (isInner_of_test (by decide))

theorem specialForm_takes : Takes isInner specialForm :=
  (sign_takes.optional.andThen (Takes.word (by decide))).orElse (Takes.word (by decide))

theorem constantForm_takes : Takes isInner constantForm :=
  (Takes.word (by decide)).orElse ((Takes.word (by decide)).orElse (Takes.word (by decide)))

theorem dateForm_takes : Takes isInner dateForm := by
  have hdigits := @Takes.takeDigits? isInner fun _ => isInner_of_isDigit
  have hword (w : String) (hw : ∀ c ∈ w.toList, isInner c) := Takes.word hw
  have hclock : Takes isInner clockForm := by
    refine Takes.sequence (hdigits 2) fun g hg => ?_
    simp only [List.mem_cons, List.not_mem_nil, or_false] at hg
    rcases hg with rfl | rfl | rfl | rfl
    · exact hword ":" (by decide)
    · exact hdigits 2
    · exact hword ":" (by decide)
    · exact hdigits 2
  have hoffset : Takes isInner offsetForm := by
    refine (hword "Z" (by decide)).orElse (Takes.sequence sign_takes fun g hg => ?_)
    simp only [List.mem_cons, List.not_mem_nil, or_false] at hg
    rcases hg with rfl | rfl | rfl
    · exact hdigits 2
    · exact hword ":" (by decide)
    · exact hdigits 2
  have htime : Takes isInner
      (sequence (word "T") [clockForm, optional (andThen (word ".") digits1), offsetForm]) := by
    refine Takes.sequence (hword "T" (by decide)) fun g hg => ?_
    simp only [List.mem_cons, List.not_mem_nil, or_false] at hg
    rcases hg with rfl | rfl | rfl
    · exact hclock
    · exact ((hword "." (by decide)).andThen digits1_takes).optional
    · exact hoffset
  refine Takes.sequence (hdigits 4) fun g hg => ?_
  simp only [List.mem_cons, List.not_mem_nil, or_false] at hg
  rcases hg with rfl | rfl | rfl | rfl | rfl
  · exact hword "-" (by decide)
  · exact hdigits 2
  · exact hword "-" (by decide)
  · exact hdigits 2
  · exact htime.optional

section

variable {R : List Char → List Char → Prop} (hR : IsPassage R)
  (hinline : ∀ text, R text (skipInline text))
  (htake : ∀ a rest, (∀ c ∈ a, isInner c) → R (a ++ rest) rest)

include htake

theorem moves_token {f : Form} (hf : Takes isInner f) : Moves R (token f) := by
  refine Moves.token fun text a rest h => ?_
  obtain ⟨rfl, ha⟩ := hf _ _ _ h
  exact htake a rest ha

theorem moves_char {c : Char} (hc : isInner c) : Moves R (char c) := by
  intro text a rest h
  rw [read_char_inv h]
  exact htake [c] rest (by simpa using hc)

theorem moves_hexNumber : Moves R hexNumber := (moves_token htake hexForm_takes).map

theorem moves_number : Moves R number := (moves_token htake numberForm_takes).map

theorem moves_sumOperation : Moves R sumOperation := by
  refine Moves.token fun text a rest h => ?_
  split at h
  · cases h
    exact htake ['+'] _ (by simp [isInner])
  · cases h
    exact htake ['-'] _ (by simp [isInner])
  · cases h

theorem moves_productOperation : Moves R productOperation := by
  refine Moves.token fun text a rest h => ?_
  split at h
  · cases h
    exact htake ['*'] _ (by simp [isInner])
  · cases h
    exact htake ['/'] _ (by simp [isInner])
  · cases h
    exact htake ['%'] _ (by simp [isInner])
  · cases h

theorem moves_minus : Moves R minus := by
  refine Moves.token fun text a rest h => ?_
  split at h
  · cases h
    exact htake ['-'] _ (by simp [isInner])
  · cases h

include hR hinline

omit htake in
theorem moves_chain {operation : Reader Operation} {operand : Reader (Except ParseError Float)}
    (hoperation : Moves R operation) (hoperand : Moves R operand) :
    Moves R (chain operation operand) := by
  refine Moves.rule (hoperand.bind hR fun first => Moves.bind hR (Moves.many hR ?_)
    fun rest => Moves.pure hR _)
  exact (Moves.skip hinline).bind hR fun _ => hoperation.bind hR fun _ =>
    (Moves.skip hinline).bind hR fun _ => hoperand.bind hR fun _ => Moves.pure hR _

theorem moves_factor {sum : Reader (Except ParseError Float)} (hsum : Moves R sum) :
    Moves R (factor sum) := by
  refine Moves.rule ((Moves.optional hR (moves_minus htake)).bind hR fun _ => ?_)
  refine Moves.bind hR ?_ fun _ => Moves.pure hR _
  refine Moves.orElse (Moves.orElse ?_ (moves_hexNumber htake)) (moves_number htake).map
  refine Moves.rule ((moves_char htake (by decide)).bind hR fun _ => ?_)
  exact (Moves.skip hinline).bind hR fun _ => hsum.bind hR fun _ =>
    (Moves.skip hinline).bind hR fun _ => (moves_char htake (by decide)).bind hR fun _ =>
      Moves.pure hR _

theorem moves_sum (fuel : Nat) : Moves R (sum fuel) := by
  induction fuel with
  | zero => exact Moves.fail
  | succ fuel ih =>
      exact moves_chain hR hinline (moves_sumOperation htake)
        (moves_chain hR hinline (moves_productOperation htake)
          (moves_factor hR hinline htake ih))

theorem moves_arithmetic (fuel : Nat) : Moves R (arithmetic fuel) :=
  Moves.rule (Moves.orElse (moves_token htake specialForm_takes).map
    ((Moves.notAhead hR).bind hR fun _ => moves_sum hR hinline htake fuel))

end

def isInert (c : Char) : Prop := beginsNoLayout c ∧ isInner c

instance (c : Char) : Decidable (isInert c) := inferInstanceAs (Decidable (_ ∧ _))

theorem isInert_of_isDigit {c : Char} (h : c.isDigit = true) : isInert c :=
  Text.forall_isDigit (by decide) h

def StaysBefore (rest text left : List Char) : Prop :=
  ∀ front, text = front ++ rest → (∀ c ∈ front, isInert c) →
    ∃ front', left = front' ++ rest ∧ ∀ c ∈ front', isInert c

section

variable {rest : List Char}

theorem isPassage_staysBefore (rest : List Char) : IsPassage (StaysBefore rest) where
  refl _ front h hfront := ⟨front, h, hfront⟩
  trans h h' front heq hfront := by
    obtain ⟨front', heq', hfront'⟩ := h front heq hfront
    exact h' front' heq' hfront'

theorem staysBefore_skipInline (hrest : AtEnd rest) (text : List Char) :
    StaysBefore rest text (skipInline text) := by
  rintro front rfl hfront
  refine ⟨front, ?_, hfront⟩
  cases front with
  | nil => exact hrest.skipInline_eq
  | cons c front =>
      obtain ⟨⟨h1, h2, -, -, -, h6⟩, -⟩ := hfront c (by simp)
      exact skipInline_cons ⟨h1, h2, h6⟩ _

theorem staysBefore_take (hrest : AtEnd rest) (a left : List Char) (ha : ∀ c ∈ a, isInner c) :
    StaysBefore rest (a ++ left) left := by
  intro front heq hfront
  rcases List.append_eq_append_iff.1 heq with ⟨more, rfl, rfl⟩ | ⟨more, rfl, hmore⟩
  · exact ⟨more, rfl, fun c hc => hfront c (by simp [hc])⟩
  · cases more with
    | nil => exact ⟨[], hmore.symm, by simp⟩
    | cons c more =>
        obtain ⟨h1, h2, h3⟩ := ha c (by simp)
        rw [hmore] at hrest
        rcases hrest with rfl | rfl | rfl
        · exact absurd rfl h1
        · exact absurd rfl h2
        · exact absurd rfl h3

theorem StaysBefore.eq {front left : List Char} (h : StaysBefore rest (front ++ rest) left)
    (hfront : ∀ c ∈ front, isInert c) (hend : (read valueEnd left).isSome) : left = rest := by
  obtain ⟨front', rfl, hfront'⟩ := h front rfl hfront
  cases front' with
  | nil => rfl
  | cons c front' =>
      obtain ⟨hlayout, h1, h2, h3⟩ := hfront' c (by simp)
      have hnone : read valueEnd (c :: (front' ++ rest)) = none :=
        read_valueEnd_cons hlayout (by simp [AtEnd, h1, h2, h3])
      rw [List.cons_append, hnone] at hend
      cases hend

end

theorem plainForm_ne_nil {text a rest : List Char} (h : plainForm text = some (a, rest)) :
    a ≠ [] := by
  unfold plainForm at h
  split at h
  · cases h
  · split at h
    · cases h
    · exact takeRun1?_ne_nil h

theorem plainForm_append {text rest : List Char} (hne : text ≠ [])
    (htext : ∀ c ∈ text, isInert c)
    (hfirst : ∀ c ∈ text.head?, ":,\x7b\x7d[]\"\'".toList.contains c = false)
    (hrest : AtEnd rest) : plainForm (text ++ rest) = some (text, rest) := by
  have hrun : takeRun1? (fun c => !(",\x7d]".toList.contains c || isLineBreak c)) (text ++ rest) =
      some (text, rest) := by
    refine takeRun1?_append hne (fun c hc => ?_) fun c hc => ?_
    · obtain ⟨⟨-, -, h3, h4, -, -⟩, h7, h8, h9⟩ := htext c hc
      simp [isLineBreak, h3, h4, h7, h8, h9]
    · rcases hrest.head c hc with rfl | rfl | rfl <;> rfl
  cases text with
  | nil => exact absurd rfl hne
  | cons c text =>
      rw [List.cons_append, plainForm, if_neg (by simpa using hfirst c rfl)]
      exact hrun

abbrev Leaves {α : Type} (p : Reader α) : Prop := Moves (fun text rest => rest <:+ text) p

theorem Leaves.bind {α β : Type} {p : Reader α} {f : α → Reader β} (hp : Leaves p)
    (hf : ∀ a, Leaves (f a)) : Leaves (p >>= f) := Moves.bind isPassage_suffix hp hf

theorem leaves_pure {α : Type} (a : α) : Leaves (pure a : Reader α) :=
  Moves.pure isPassage_suffix a

theorem leaves_of_splits {f : Form} (hf : Splits f) : Leaves (token f) :=
  Moves.token fun text a rest h => ⟨a, (hf text a rest h).symm⟩

theorem leaves_skipLayout : Leaves (skip skipLayout) := Moves.skip skipLayout_suffix

theorem leaves_skipInline : Leaves (skip skipInline) := Moves.skip skipInline_suffix

theorem leaves_char (c : Char) : Leaves (char c) := by
  intro text a rest h
  rw [read_char_inv h]
  exact List.suffix_cons _ _

theorem leaves_scalar {p : Reader Built} (hp : Leaves p) : Leaves (scalar p) :=
  hp.bind fun _ => Leaves.bind (Moves.ahead isPassage_suffix) fun _ => leaves_pure _

theorem leaves_arithmetic (fuel : Nat) : Leaves (arithmetic fuel) :=
  moves_arithmetic isPassage_suffix skipInline_suffix (fun a rest _ => List.suffix_append a rest)
    fuel

theorem leaves_quotedString (quote : Char) : Leaves (quotedString quote) := by
  have hinside : Leaves (token fun text => some (quotedForm quote text)) := by
    refine Moves.token fun text a rest h => ?_
    have hsplit := quotedForm_splits quote text
    rw [Option.some.inj h] at hsplit
    exact ⟨a, hsplit⟩
  exact Moves.rule ((leaves_char quote).bind fun _ => hinside.bind fun _ =>
    (leaves_char quote).bind fun _ => leaves_pure _)

theorem leaves_blockString : Leaves blockString := by
  have hquotes : Leaves (expect fun text => (word "\'\'\'" text).map (·.2)) := by
    refine Moves.expect fun text rest h => ?_
    obtain ⟨found, hfound, rfl⟩ := Option.map_eq_some_iff.1 h
    exact ⟨_, (word_inv hfound).2.symm⟩
  have hinside : Leaves (token fun text => some (blockForm text)) := by
    refine Moves.token fun text a rest h => ?_
    have hsplit := blockForm_splits text
    rw [Option.some.inj h] at hsplit
    exact ⟨a, hsplit⟩
  exact Moves.rule (hquotes.bind fun _ => hinside.bind fun _ => hquotes.bind fun _ =>
    leaves_pure _)

theorem leaves_stringText : Leaves stringText :=
  Moves.orElse (Moves.orElse leaves_blockString (leaves_quotedString _)) (leaves_quotedString _)

theorem leaves_regexValue : Leaves regexValue := by
  have hsource : Leaves (token regexSourceForm) :=
    leaves_of_splits fun text a rest h => (regexSourceForm_inv h).2.1
  have hflags : Leaves (token regexFlagsForm) := leaves_of_splits (takeRun_splits _)
  exact Moves.rule ((leaves_char '/').bind fun _ => hsource.bind fun _ =>
    (leaves_char '/').bind fun _ => hflags.bind fun _ => leaves_pure _)

theorem plainForm_splits : Splits plainForm := by
  intro text a rest h
  unfold plainForm at h
  split at h
  · cases h
  · split at h
    · cases h
    · exact takeRun1?_splits _ _ _ _ h

theorem plainLineForm_splits : Splits plainLineForm := by
  intro text a rest h
  unfold plainLineForm at h
  split at h
  · cases h
  · split at h
    · cases h
    · exact takeRun1?_splits _ _ _ _ h

theorem bareKeyForm_splits : Splits bareKeyForm := takeRun1?_splits _

section

variable {α : Type} {opening closing : Char} {member : Reader α}

def nextMember (member : Reader α) : Reader α := do
  expect takeSeparator?
  member

theorem leaves_nextMember (h : Leaves member) : Leaves (nextMember member) :=
  Leaves.bind (Moves.expect fun _ _ h => (takeSeparator?_suffix h).1) fun _ => h

theorem shortens_nextMember (h : Leaves member) : Shortens (nextMember member) := by
  intro text a rest hread
  rw [nextMember, read_bind, read_expect] at hread
  obtain ⟨⟨u, middle⟩, hseparator, hmember⟩ := Option.bind_eq_some_iff.1 hread
  obtain ⟨middle', hseparator, heq⟩ := Option.map_eq_some_iff.1 hseparator
  cases heq
  exact Nat.lt_of_le_of_lt (h _ _ _ hmember).length_le (takeSeparator?_suffix hseparator).2

theorem leaves_members (h : Leaves member) : Leaves (members opening closing member) := by
  have hcomma : Leaves (Reader.optional (expect takeTrailingComma?)) :=
    Moves.optional isPassage_suffix (Moves.expect fun _ _ => takeTrailingComma?_suffix)
  have hmany : Leaves (many (nextMember member)) :=
    Moves.many isPassage_suffix (leaves_nextMember h)
  refine (leaves_char opening).bind fun _ => leaves_skipLayout.bind fun _ =>
    Leaves.bind (Moves.optional isPassage_suffix ?_) fun _ => leaves_skipLayout.bind fun _ =>
      (leaves_char closing).bind fun _ => leaves_pure _
  exact h.bind fun _ => hmany.bind fun _ => hcomma.bind fun _ => leaves_pure _

end

theorem leaves_memberKey : Leaves (orElse stringText (token bareKeyForm)) :=
  Moves.orElse leaves_stringText (leaves_of_splits bareKeyForm_splits)

theorem leaves_objectMember {inner : Reader Built} (h : Leaves inner) :
    Leaves (objectMember inner) :=
  Moves.rule (leaves_memberKey.bind fun _ => leaves_skipInline.bind fun _ =>
    (leaves_char ':').bind fun _ => leaves_skipLayout.bind fun _ => h.bind fun _ => leaves_pure _)

theorem leaves_value (fuel : Nat) : Leaves (value fuel) := by
  induction fuel with
  | zero => exact Moves.fail
  | succ fuel ih =>
      have hobject : Leaves (object (value fuel)) :=
        Moves.rule ((leaves_members (leaves_objectMember ih)).bind fun _ => leaves_pure _)
      have harray : Leaves (array (value fuel)) :=
        Moves.rule ((leaves_members ih).bind fun _ => leaves_pure _)
      have hnumber : Leaves number := (leaves_of_splits numberForm_takes.splits).map
      have hhex : Leaves hexNumber := (leaves_of_splits hexForm_takes.splits).map
      refine Moves.orElse (Moves.orElse (Moves.orElse (Moves.orElse (Moves.orElse (Moves.orElse
        (Moves.orElse (Moves.orElse (Moves.orElse ?_ ?_) ?_) ?_) hobject) harray) ?_) ?_) ?_) ?_
      · exact leaves_scalar leaves_regexValue
      · exact leaves_scalar hhex.map
      · exact leaves_scalar (leaves_of_splits dateForm_takes.splits).map
      · exact leaves_scalar (leaves_arithmetic _).map
      · exact leaves_stringText.map
      · exact leaves_scalar (leaves_of_splits constantForm_takes.splits).map
      · exact leaves_scalar hnumber.map
      · exact (leaves_of_splits plainForm_splits).map

end RuleBook.Notation
