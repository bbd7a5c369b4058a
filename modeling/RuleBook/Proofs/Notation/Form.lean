import RuleBook.Notation.Scalar
import RuleBook.Proofs.Text.Run

/-!
# Forms

A form takes something off the front of a text and leaves the rest as it is.
-/

namespace RuleBook.Notation

namespace Form

theorem andThen_apply (f g : Form) (text : List Char) :
    andThen f g text = (f text).bind fun first =>
      (g first.2).map fun second => (first.1 ++ second.1, second.2) := by
  unfold andThen
  cases f text with
  | none => rfl
  | some first =>
      change (g first.2).bind _ = (g first.2).map _
      cases g first.2 <;> rfl

theorem andThen_some {f g : Form} {text middle rest a b : List Char}
    (hf : f text = some (a, middle)) (hg : g middle = some (b, rest)) :
    andThen f g text = some (a ++ b, rest) := by
  simp [andThen_apply, hf, hg]

theorem andThen_none {f : Form} {text : List Char} (hf : f text = none) (g : Form) :
    andThen f g text = none := by
  simp [andThen_apply, hf]

theorem optional_some {f : Form} {text rest a : List Char} (hf : f text = some (a, rest)) :
    optional f text = some (a, rest) := by
  simp [optional, orElse, hf]

theorem optional_none {f : Form} {text : List Char} (hf : f text = none) :
    optional f text = some ([], text) := by
  simp [optional, orElse, hf]

theorem word_append (w : String) (rest : List Char) :
    word w (w.toList ++ rest) = some (w.toList, rest) := by
  rw [word, if_pos (by simp [List.isPrefixOf_iff_prefix]), ← String.length_toList,
    List.drop_left]

theorem word_inv {w : String} {text a rest : List Char} (h : word w text = some (a, rest)) :
    a = w.toList ∧ text = w.toList ++ rest := by
  rw [word] at h
  split at h
  · next hprefix =>
    obtain ⟨tail, rfl⟩ := List.isPrefixOf_iff_prefix.1 hprefix
    rw [← String.length_toList, List.drop_left] at h
    cases h
    exact ⟨rfl, rfl⟩
  · cases h

theorem word_none {w : String} {c d : Char} {more : List Char} (hw : w.toList = d :: more)
    (hne : c ≠ d) (text : List Char) : word w (c :: text) = none := by
  rw [word, if_neg]
  simp [hw, List.isPrefixOf, Ne.symm hne]

theorem word_nil {w : String} {d : Char} {more : List Char} (hw : w.toList = d :: more) :
    word w [] = none := by
  rw [word, if_neg]
  simp [hw]

end Form

open Form

section

variable {test : Char → Bool} {run rest : List Char}

theorem takeRun_append (hrun : ∀ c ∈ run, test c = true)
    (hrest : ∀ c ∈ rest.head?, test c = false) :
    takeRun test (run ++ rest) = some (run, rest) :=
  congrArg some (Text.span_append hrun hrest)

theorem takeRun1?_append (hne : run ≠ []) (hrun : ∀ c ∈ run, test c = true)
    (hrest : ∀ c ∈ rest.head?, test c = false) :
    takeRun1? test (run ++ rest) = some (run, rest) := by
  rw [takeRun1?, Text.span_append hrun hrest]
  cases run with
  | nil => exact absurd rfl hne
  | cons c run => rfl

theorem takeRun1?_ne_nil {text a : List Char} (h : takeRun1? test text = some (a, rest)) :
    a ≠ [] := by
  rw [takeRun1?] at h
  split at h
  · cases h
  · next hne _ =>
    cases h
    exact hne

end

def Form.Splits (f : Form) : Prop := ∀ text a rest, f text = some (a, rest) → text = a ++ rest

def Form.Takes (P : Char → Prop) (f : Form) : Prop :=
  ∀ text a rest, f text = some (a, rest) → text = a ++ rest ∧ ∀ c ∈ a, P c

namespace Form.Takes

variable {P : Char → Prop} {f g : Form}

theorem splits (h : Takes P f) : Splits f := fun _ _ _ heq => (h _ _ _ heq).1

theorem andThen (hf : Takes P f) (hg : Takes P g) : Takes P (andThen f g) := by
  intro text a rest h
  rw [andThen_apply] at h
  obtain ⟨⟨first, middle⟩, hfirst, hmap⟩ := Option.bind_eq_some_iff.1 h
  obtain ⟨⟨second, rest'⟩, hsecond, heq⟩ := Option.map_eq_some_iff.1 hmap
  cases heq
  obtain ⟨rfl, hfirst'⟩ := hf _ _ _ hfirst
  obtain ⟨hmiddle, hsecond'⟩ := hg _ _ _ hsecond
  dsimp only at hmiddle ⊢
  refine ⟨by rw [hmiddle, List.append_assoc], fun c hc => ?_⟩
  rcases List.mem_append.1 hc with hc | hc
  · exact hfirst' c hc
  · exact hsecond' c hc

theorem sequence (hf : Takes P f) {fs : List Form} (hfs : ∀ g ∈ fs, Takes P g) :
    Takes P (sequence f fs) := by
  induction fs generalizing f with
  | nil => exact hf
  | cons g fs ih =>
      exact ih (hf.andThen (hfs g (by simp))) fun g' hg' => hfs g' (by simp [hg'])

theorem orElse (hf : Takes P f) (hg : Takes P g) : Takes P (orElse f g) := by
  intro text a rest h
  rw [Form.orElse, Option.orElse_eq_orElse, Option.orElse_eq_or, Option.or_eq_some_iff] at h
  rcases h with h | ⟨-, h⟩
  · exact hf _ _ _ h
  · exact hg _ _ _ h

theorem optional (hf : Takes P f) : Takes P (optional f) := by
  refine hf.orElse fun text a rest h => ?_
  cases h
  exact ⟨rfl, by simp⟩

theorem word {w : String} (hw : ∀ c ∈ w.toList, P c) : Takes P (word w) := by
  intro text a rest h
  obtain ⟨rfl, htext⟩ := word_inv h
  exact ⟨htext, hw⟩

variable {test : Char → Bool} (htest : ∀ c, test c = true → P c)

include htest

theorem takeRun : Takes P (takeRun test) := by
  intro text a rest h
  rw [Notation.takeRun, List.span_eq_takeWhile_dropWhile] at h
  cases h
  exact ⟨List.takeWhile_append_dropWhile.symm,
    fun c hc => htest c (List.all_eq_true.1 List.all_takeWhile c hc)⟩

theorem takeRun1? : Takes P (takeRun1? test) := by
  intro text a rest h
  rw [Notation.takeRun1?] at h
  split at h
  · cases h
  · next run rest' _ heq =>
    cases h
    exact takeRun htest _ _ _ (congrArg some heq)

theorem takeChar? : Takes P (takeChar? test) := by
  intro text a rest h
  unfold Notation.takeChar? at h
  split at h
  · cases h
  · split at h
    · next hc =>
      cases h
      exact ⟨rfl, by simpa using htest _ hc⟩
    · cases h

omit htest

theorem takeDigits? (hdigit : ∀ c : Char, c.isDigit = true → P c) (count : Nat) :
    Takes P (takeDigits? count) := by
  intro text a rest h
  rw [Notation.takeDigits?] at h
  split at h
  · next hdigits =>
    cases h
    exact ⟨(List.take_append_drop count text).symm,
      fun c hc => hdigit c (List.all_eq_true.1 hdigits.2 c hc)⟩
  · cases h

end Form.Takes

theorem takeRun_splits (test : Char → Bool) : Splits (takeRun test) :=
  (Takes.takeRun (P := fun _ => True) fun _ _ => trivial).splits

theorem takeRun1?_splits (test : Char → Bool) : Splits (takeRun1? test) :=
  (Takes.takeRun1? (P := fun _ => True) fun _ _ => trivial).splits

theorem classTail?_splits : Splits classTail? := by
  intro text a rest h
  fun_induction classTail? text generalizing a with
  | case1 => cases h
  | case2 text =>
      cases h
      rfl
  | case3 c text hbreak => cases h
  | case4 c text hbreak ih =>
      obtain ⟨⟨tail, rest'⟩, htail, heq⟩ := Option.map_eq_some_iff.1 h
      cases heq
      simp [ih _ htail]
  | case5 c text _ _ hstop => cases h
  | case6 c text _ _ hstop ih =>
      obtain ⟨⟨tail, rest'⟩, htail, heq⟩ := Option.map_eq_some_iff.1 h
      cases heq
      simp [ih _ htail]

theorem quotedForm_splits (quote : Char) (text : List Char) :
    (quotedForm quote text).1 ++ (quotedForm quote text).2 = text := by
  fun_induction quotedForm quote text with
  | case1 => rfl
  | case2 => rfl
  | case3 c text _ inside rest heq ih => simpa [heq] using ih
  | case4 => rfl
  | case5 c text _ _ inside rest heq ih => simpa [heq] using ih

theorem blockForm_splits (text : List Char) :
    (blockForm text).1 ++ (blockForm text).2 = text := by
  fun_induction blockForm text with
  | case1 => rfl
  | case2 => rfl
  | case3 c text _ inside rest heq ih => simpa [heq] using ih

end RuleBook.Notation
