import Mathlib

/-!
# Characters and runs of them

What holds of the ten decimal digits holds of every digit.  A run ends before the first
character that fails its test, whatever comes after that.
-/

namespace RuleBook.Text

instance (priority := high) decidableForallMem {P : Char → Prop} [DecidablePred P]
    (text : List Char) : Decidable (∀ c ∈ text, P c) := List.decidableBAll P text

theorem mem_digits {c : Char} (h : c.isDigit = true) : c ∈ "0123456789".toList := by
  have hle : 48 ≤ c.toNat ∧ c.toNat ≤ 57 := by
    simpa [Char.isDigit, UInt32.le_iff_toNat_le] using h
  have hall : ∀ n : Fin 10, Char.ofNat (48 + n) ∈ "0123456789".toList := by decide
  have hn := hall ⟨c.toNat - 48, by omega⟩
  rwa [show 48 + (c.toNat - 48) = c.toNat by omega, Char.ofNat_toNat] at hn

theorem forall_isDigit {P : Char → Prop} (hall : ∀ d ∈ "0123456789".toList, P d) {c : Char}
    (h : c.isDigit = true) : P c := hall c (mem_digits h)

section

variable {test : Char → Bool} {run rest : List Char} (hrun : ∀ c ∈ run, test c = true)
  (hrest : ∀ c ∈ rest.head?, test c = false)

include hrun hrest

theorem takeWhile_append : (run ++ rest).takeWhile test = run := by
  rw [List.takeWhile_append_of_pos hrun]
  cases rest with
  | nil => simp
  | cons c rest => simp [hrest c rfl]

theorem span_append : (run ++ rest).span test = (run, rest) := by
  have hsplit := List.takeWhile_append_dropWhile (p := test) (l := run ++ rest)
  rw [takeWhile_append hrun hrest] at hsplit
  rw [List.span_eq_takeWhile_dropWhile, takeWhile_append hrun hrest,
    List.append_cancel_left hsplit]

end

end RuleBook.Text
