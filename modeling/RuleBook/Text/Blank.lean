/-!
# Blank characters

The characters with the Unicode property White_Space, and trimming by them.
-/

namespace RuleBook.Text

def blankRanges : List (Nat × Nat) :=
  [(0x09, 0x0d), (0x20, 0x20), (0x85, 0x85), (0xa0, 0xa0), (0x1680, 0x1680),
    (0x2000, 0x200a), (0x2028, 0x2029), (0x202f, 0x202f), (0x205f, 0x205f),
    (0x3000, 0x3000)]

def isBlank (c : Char) : Bool :=
  blankRanges.any fun (first, last) => first ≤ c.toNat ∧ c.toNat ≤ last

def trimStart (text : List Char) : List Char := text.dropWhile isBlank

def trimEnd (text : List Char) : List Char := (text.reverse.dropWhile isBlank).reverse

def trim (text : List Char) : List Char := trimEnd (trimStart text)

theorem trimStart_append_of_ne_nil {s t : List Char} (h : trimStart s ≠ []) :
    trimStart (s ++ t) = trimStart s ++ t := by
  induction s with
  | nil => exact absurd rfl h
  | cons c s ih =>
      by_cases hc : isBlank c = true
      · simpa [trimStart, hc] using ih (by simpa [trimStart, hc] using h)
      · simp [trimStart, hc]

theorem trimStart_trimStart (s : List Char) : trimStart (trimStart s) = trimStart s := by
  induction s with
  | nil => rfl
  | cons c s ih =>
      by_cases hc : isBlank c = true
      · simpa [trimStart, hc] using ih
      · simp [trimStart, hc]

theorem trimEnd_trimEnd (s : List Char) : trimEnd (trimEnd s) = trimEnd s := by
  have h := trimStart_trimStart s.reverse
  simp only [trimStart] at h
  simp [trimEnd, h]

theorem trimEnd_cons {c : Char} (hc : isBlank c = false) (s : List Char) :
    trimEnd (c :: s) = c :: trimEnd s := by
  by_cases h : trimStart s.reverse = []
  · have hall : (s.reverse ++ [c]).dropWhile isBlank = [c] := by
      have key : ∀ t : List Char, trimStart t = [] →
          (t ++ [c]).dropWhile isBlank = [c] := by
        intro t ht
        induction t with
        | nil => simp [hc]
        | cons d t ih =>
            by_cases hd : isBlank d = true
            · simpa [hd] using ih (by simpa [trimStart, hd] using ht)
            · simp [trimStart, hd] at ht
      exact key _ h
    simp only [trimStart] at h
    simp [trimEnd, hall, h]
  · have happend := trimStart_append_of_ne_nil (t := [c]) h
    simp only [trimStart] at happend
    simp [trimEnd, happend]

theorem trimStart_eq_nil_or_cons (s : List Char) :
    trimStart s = [] ∨ ∃ c t, isBlank c = false ∧ trimStart s = c :: t := by
  induction s with
  | nil => exact .inl rfl
  | cons c s ih =>
      by_cases hc : isBlank c = true
      · simpa [trimStart, hc] using ih
      · exact .inr ⟨c, s, by simpa using hc, by simp [trimStart, hc]⟩

theorem trim_trim (s : List Char) : trim (trim s) = trim s := by
  have hstart : trimStart (trim s) = trim s := by
    rcases trimStart_eq_nil_or_cons s with h | ⟨c, t, hc, h⟩
    · rw [trim, h]
      rfl
    · rw [trim, h, trimEnd_cons hc, trimStart, List.dropWhile_cons_of_neg (by simp [hc])]
  rw [trim, hstart, trim, trimEnd_trimEnd]

end RuleBook.Text
