import RuleBook.Proofs.Text.Run
import RuleBook.Text.Blank

/-!
# Blanks at the ends of a text

Trimming takes away what is blank at the ends and nothing else.
-/

namespace RuleBook.Text

theorem trimEnd_isPrefix (s : List Char) : trimEnd s <+: s := by
  have h := List.reverse_prefix.2 (List.dropWhile_suffix isBlank (l := s.reverse))
  rwa [List.reverse_reverse] at h

theorem length_trim_le (s : List Char) : (trim s).length ≤ s.length :=
  Nat.le_trans (trimEnd_isPrefix _).length_le (List.dropWhile_suffix isBlank).length_le

theorem trimEnd_concat_blank {c : Char} (hc : isBlank c = true) (s : List Char) :
    trimEnd (s ++ [c]) = trimEnd s := by
  rw [trimEnd, List.reverse_append, List.reverse_singleton, List.singleton_append,
    List.dropWhile_cons_of_pos hc]
  rfl

theorem trimEnd_concat {c : Char} (hc : isBlank c = false) (s : List Char) :
    trimEnd (s ++ [c]) = s ++ [c] := by
  rw [trimEnd, List.reverse_append, List.reverse_singleton, List.singleton_append,
    List.dropWhile_cons_of_neg (by simp [hc]), List.reverse_cons, List.reverse_reverse]

theorem trimEnd_append_cons {c : Char} (hc : isBlank c = false) (s t : List Char) :
    trimEnd (s ++ c :: t) = s ++ trimEnd (c :: t) := by
  have hne : trimStart (c :: t).reverse ≠ [] := by
    intro hnil
    have hall := List.dropWhile_eq_nil_iff.1 hnil c (by simp)
    rw [hc] at hall
    cases hall
  have happend := trimStart_append_of_ne_nil (t := s.reverse) hne
  rw [← List.reverse_append] at happend
  rw [trimEnd, trimEnd, ← trimStart, ← trimStart, happend, List.reverse_append,
    List.reverse_reverse]

theorem trim_cons_blank {c : Char} (hc : isBlank c = true) (s : List Char) :
    trim (c :: s) = trim s := by
  rw [trim, trimStart, List.dropWhile_cons_of_pos hc]
  rfl

theorem trim_cons {c : Char} (hc : isBlank c = false) (s : List Char) :
    trim (c :: s) = trimEnd (c :: s) := by
  rw [trim, trimStart, List.dropWhile_cons_of_neg (by simp [hc])]

structure IsTrimmed (s : List Char) : Prop where
  head : ∃ c more, s = c :: more ∧ isBlank c = false
  last : ∃ more c, s = more ++ [c] ∧ isBlank c = false

namespace IsTrimmed

variable {s : List Char} (h : IsTrimmed s)

include h

theorem trim_eq : trim s = s := by
  obtain ⟨c, more, rfl, hc⟩ := h.head
  obtain ⟨front, d, heq, hd⟩ := h.last
  rw [trim_cons hc, heq, trimEnd_concat hd]

theorem trim_concat_blank {c : Char} (hc : isBlank c = true) : trim (s ++ [c]) = s := by
  obtain ⟨d, more, rfl, hd⟩ := h.head
  rw [List.cons_append, trim_cons hd, ← List.cons_append, trimEnd_concat_blank hc,
    ← trim_cons hd, h.trim_eq]

theorem trim_of_isPrefix {p : List Char} (hp : p <+: s) : trim p = trimEnd p := by
  obtain ⟨c, more, rfl, hc⟩ := h.head
  cases p with
  | nil => rfl
  | cons d p =>
      obtain ⟨rfl, -⟩ := List.cons_prefix_cons.1 hp
      exact trim_cons hc p

end IsTrimmed

end RuleBook.Text
