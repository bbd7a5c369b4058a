import Mathlib
import RuleBook.Notation.Reader

/-!
# Results of readers

What readers take, without the trail they leave.  A reader is described by its result
on a text; a property of the way from the text to the rest of it that is kept by
composition holds of a reader as soon as it holds of the parts.
-/

namespace RuleBook.Notation.Reader

variable {α β : Type}

def read (p : Reader α) (text : List Char) : Option (α × List Char) := (p text).result

@[simp] theorem read_pure (a : α) (text : List Char) :
    read (pure a) text = some (a, text) := rfl

@[simp] theorem read_done (a : α) (text : List Char) :
    read (done a) text = some (a, text) := rfl

@[simp] theorem read_bind (p : Reader α) (f : α → Reader β) (text : List Char) :
    read (p >>= f) text = (read p text).bind fun found => read (f found.1) found.2 := by
  change (Reader.bind p f text).result = _
  cases h : (p text).result <;> simp [Reader.bind, read, h]

theorem read_bind' (p : Reader α) (f : α → Reader β) (text : List Char) :
    read (Reader.bind p f) text =
      (read p text).bind fun found => read (f found.1) found.2 :=
  read_bind p f text

@[simp] theorem read_map (f : α → β) (p : Reader α) (text : List Char) :
    read (f <$> p) text = (read p text).map fun found => (f found.1, found.2) := by
  change read (p >>= fun a => pure (f a)) text = _
  rw [read_bind]
  cases read p text <;> rfl

theorem read_map_inv {f : α → β} {p : Reader α} {text rest : List Char} {b : β}
    (h : read (f <$> p) text = some (b, rest)) : ∃ a, read p text = some (a, rest) ∧ f a = b := by
  rw [read_map] at h
  obtain ⟨⟨a, rest'⟩, hread, heq⟩ := Option.map_eq_some_iff.1 h
  cases heq
  exact ⟨a, hread, rfl⟩

@[simp] theorem read_orElse (p q : Reader α) (text : List Char) :
    read (orElse p q) text = (read p text).or (read q text) := by
  unfold orElse read
  cases h : (p text).result <;> simp [h]

@[simp] theorem read_skip (f : List Char → List Char) (text : List Char) :
    read (skip f) text = some ((), f text) := rfl

@[simp] theorem read_expect (f : List Char → Option (List Char)) (text : List Char) :
    read (expect f) text = (f text).map ((), ·) := rfl

@[simp] theorem read_rule (p : Reader α) (text : List Char) :
    read (rule p) text = read p text := rfl

@[simp] theorem read_token (f : List Char → Option (α × List Char)) (text : List Char) :
    read (token f) text = f text := rfl

@[simp] theorem read_ahead (p : Reader α) (text : List Char) :
    read (ahead p) text = (read p text).map fun _ => ((), text) := rfl

@[simp] theorem read_notAhead (p : Reader α) (text : List Char) :
    read (notAhead p) text = if (read p text).isSome then none else some ((), text) := rfl

@[simp] theorem read_optional (p : Reader α) (text : List Char) :
    read (optional p) text =
      some (((read p text).map fun found => (some found.1, found.2)).getD (none, text)) := by
  rw [optional, read_orElse, read_bind']
  cases read p text <;> rfl

theorem read_char_cons (c d : Char) (text : List Char) :
    read (char c) (d :: text) = if d = c then some ((), text) else none := by
  rw [char, read_expect]
  by_cases h : d = c <;> simp [h]

@[simp] theorem read_char_self (c : Char) (text : List Char) :
    read (char c) (c :: text) = some ((), text) := by
  simp [read_char_cons]

theorem read_char_inv {c : Char} {text rest : List Char} {a : Unit}
    (h : read (char c) text = some (a, rest)) : text = c :: rest := by
  cases text with
  | nil => cases h
  | cons d text =>
      rw [read_char_cons] at h
      split at h
      · next heq =>
        cases h
        rw [heq]
      · cases h

@[simp] theorem read_char_nil (c : Char) : read (char c) [] = none := rfl

def Shortens (p : Reader α) : Prop :=
  ∀ text a rest, read p text = some (a, rest) → rest.length < text.length

private theorem read_manyFrom_succ (p : Reader α) (fuel : Nat) (text : List Char) :
    read (manyFrom p (fuel + 1)) text =
      ((read p text).bind fun found =>
        (read (manyFrom p fuel) found.2).map fun more => (found.1 :: more.1, more.2)).or
        (some ([], text)) := by
  rw [manyFrom, read_orElse, read_bind', read_done]
  congr 2
  funext found
  rw [read_bind']
  cases read (manyFrom p fuel) found.2 <;> rfl

private theorem read_manyFrom_isSome (p : Reader α) (fuel : Nat) (text : List Char) :
    (read (manyFrom p fuel) text).isSome := by
  cases fuel with
  | zero => rfl
  | succ fuel => simp [read_manyFrom_succ]

private theorem read_manyFrom_eq {p : Reader α} (hp : Shortens p) {fuel : Nat}
    {text : List Char} (hfuel : text.length < fuel) :
    read (manyFrom p fuel) text = read (many p) text := by
  change _ = read (manyFrom p (text.length + 1)) text
  induction fuel using Nat.strongRecOn generalizing text with
  | _ fuel ih =>
      cases fuel with
      | zero => omega
      | succ fuel =>
          rw [read_manyFrom_succ, read_manyFrom_succ]
          cases h : read p text with
          | none => rfl
          | some found =>
              have hlt := hp text found.1 found.2 h
              simp only [Option.bind_some]
              by_cases heq : fuel = text.length
              · rw [heq]
              · rw [ih fuel (by omega) (by omega),
                  ih text.length (by omega) hlt]

theorem read_many_isSome (p : Reader α) (text : List Char) : (read (many p) text).isSome :=
  read_manyFrom_isSome p (text.length + 1) text

theorem read_many_of_none {p : Reader α} {text : List Char} (h : read p text = none) :
    read (many p) text = some ([], text) := by
  change read (manyFrom p (text.length + 1)) text = _
  simp [read_manyFrom_succ, h]

theorem read_many_of_some {p : Reader α} (hp : Shortens p) {text rest : List Char} {a : α}
    (h : read p text = some (a, rest)) :
    read (many p) text =
      (read (many p) rest).map fun more => (a :: more.1, more.2) := by
  change read (manyFrom p (text.length + 1)) text = _
  rw [read_manyFrom_succ, h, Option.bind_some, read_manyFrom_eq hp (hp text a rest h)]
  obtain ⟨more, hmore⟩ := Option.isSome_iff_exists.1 (read_many_isSome p rest)
  simp [hmore]

theorem many_induction {p : Reader α} (hp : Shortens p)
    {motive : List Char → List α → List Char → Prop}
    (stop : ∀ text, read p text = none → motive text [] text)
    (more : ∀ text a middle as rest, read p text = some (a, middle) →
      read (many p) middle = some (as, rest) → motive middle as rest →
      motive text (a :: as) rest)
    {text : List Char} {as : List α} {rest : List Char}
    (h : read (many p) text = some (as, rest)) : motive text as rest := by
  induction hlen : text.length using Nat.strongRecOn generalizing text as with
  | _ n ih =>
      cases hfirst : read p text with
      | none =>
          rw [read_many_of_none hfirst] at h
          cases h
          exact stop _ hfirst
      | some found =>
          obtain ⟨a, middle⟩ := found
          rw [read_many_of_some hp hfirst] at h
          obtain ⟨⟨as', rest'⟩, hrest, heq⟩ := Option.map_eq_some_iff.1 h
          cases heq
          have hlt := hp text a middle hfirst
          exact more text a middle as' rest' hfirst hrest
            (ih middle.length (by omega) hrest rfl)

/-- A relation between a text and the rest of it that composes. -/
structure IsPassage (R : List Char → List Char → Prop) : Prop where
  refl : ∀ text, R text text
  trans : ∀ {text middle rest}, R text middle → R middle rest → R text rest

def Moves (R : List Char → List Char → Prop) (p : Reader α) : Prop :=
  ∀ text a rest, read p text = some (a, rest) → R text rest

namespace Moves

variable {R : List Char → List Char → Prop}

theorem bind (hR : IsPassage R) {p : Reader α} {f : α → Reader β} (hp : Moves R p)
    (hf : ∀ a, Moves R (f a)) : Moves R (p >>= f) := by
  intro text b rest h
  rw [read_bind] at h
  obtain ⟨⟨a, middle⟩, hfirst, hsecond⟩ := Option.bind_eq_some_iff.1 h
  exact hR.trans (hp text a middle hfirst) (hf a middle b rest hsecond)

theorem pure (hR : IsPassage R) (a : α) : Moves R (Pure.pure a : Reader α) := by
  intro text b rest h
  cases h
  exact hR.refl text

theorem map {f : α → β} {p : Reader α} (hp : Moves R p) : Moves R (f <$> p) := by
  intro text b rest h
  obtain ⟨a, hfirst, -⟩ := read_map_inv h
  exact hp text a rest hfirst

theorem orElse {p q : Reader α} (hp : Moves R p) (hq : Moves R q) :
    Moves R (orElse p q) := by
  intro text a rest h
  rw [read_orElse, Option.or_eq_some_iff] at h
  rcases h with h | ⟨-, h⟩
  · exact hp text a rest h
  · exact hq text a rest h

theorem rule {p : Reader α} (hp : Moves R p) : Moves R (rule p) := hp

theorem fail : Moves R (fail : Reader α) := by
  intro text a rest h
  cases h

theorem scan {f : List Char → Option (α × List Char)}
    (hf : ∀ text a rest, f text = some (a, rest) → R text rest) : Moves R (scan f) := hf

theorem token {f : List Char → Option (α × List Char)}
    (hf : ∀ text a rest, f text = some (a, rest) → R text rest) : Moves R (token f) := hf

theorem skip {f : List Char → List Char} (hf : ∀ text, R text (f text)) :
    Moves R (skip f) := by
  intro text a rest h
  cases h
  exact hf text

theorem expect {f : List Char → Option (List Char)}
    (hf : ∀ text rest, f text = some rest → R text rest) : Moves R (expect f) := by
  intro text a rest h
  rw [read_expect] at h
  obtain ⟨rest', hrest, heq⟩ := Option.map_eq_some_iff.1 h
  cases heq
  exact hf _ _ hrest

theorem ahead (hR : IsPassage R) {p : Reader α} : Moves R (ahead p) := by
  intro text a rest h
  rw [read_ahead] at h
  obtain ⟨found, -, heq⟩ := Option.map_eq_some_iff.1 h
  cases heq
  exact hR.refl text

theorem notAhead (hR : IsPassage R) {p : Reader α} : Moves R (notAhead p) := by
  intro text a rest h
  rw [read_notAhead] at h
  split at h
  · cases h
  · cases h
    exact hR.refl text

theorem optional (hR : IsPassage R) {p : Reader α} (hp : Moves R p) :
    Moves R (optional p) := by
  intro text a rest h
  rw [read_optional] at h
  cases hfirst : read p text with
  | none =>
      rw [hfirst] at h
      cases h
      exact hR.refl text
  | some found =>
      rw [hfirst] at h
      cases h
      exact hp text found.1 found.2 hfirst

theorem many (hR : IsPassage R) {p : Reader α} (hp : Moves R p) : Moves R (many p) := by
  intro text as rest h
  change read (manyFrom p (text.length + 1)) text = _ at h
  generalize text.length + 1 = fuel at h
  induction fuel generalizing text as with
  | zero =>
      cases h
      exact hR.refl _
  | succ fuel ih =>
      rw [read_manyFrom_succ, Option.or_eq_some_iff] at h
      rcases h with h | ⟨-, h⟩
      · obtain ⟨⟨a, middle⟩, hfirst, hmore⟩ := Option.bind_eq_some_iff.1 h
        obtain ⟨⟨as', rest'⟩, hrest, heq⟩ := Option.map_eq_some_iff.1 hmore
        cases heq
        exact hR.trans (hp text a middle hfirst) (ih middle as' hrest)
      · cases h
        exact hR.refl _

end Moves

end RuleBook.Notation.Reader
