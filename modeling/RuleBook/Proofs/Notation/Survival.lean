import RuleBook.Proofs.Notation.Exact

/-!
# Literals that survive their text

A literal survives when its text reads as an equal literal.  This takes a regular
literal that stands alone, and then the very same literal is read.  What a text denotes
is regular, so it survives when it stands: its dates have years of four digits, and no
regex literal leaves a class open that is closed behind it.
-/

namespace RuleBook.Notation

open Reader Literal

theorem exact_of_beq {x y : Literal} (hparse : parse (write x) = .ok y)
    (hbeq : y.beq x = true) : y = x ∧ x.Stands [] := by
  rcases parse_ok_cases hparse with ⟨rest, hread, -⟩ | ⟨line, rest, -, rfl⟩
  · have hweight := weight_le_of_beq (regular_of_parse hparse).uniqueKeys hbeq
    have hwrite := marks_write_le x
    have hexact := isReadExactly x y ((write x).length + 1) [] rest atEnd_nil
      (by rwa [List.append_nil]) (by rw [List.append_nil]; omega) (.inl hbeq)
    exact hexact.2 hbeq
  · cases x with
    | string s =>
        rw [plainOf] at hbeq ⊢
        obtain rfl := eq_of_beq (show (_ == s) = true from hbeq)
        exact ⟨rfl, trivial⟩
    | _ => cases hbeq

end RuleBook.Notation

namespace RuleBook.Literal

open Notation

variable {x : Literal}

/-- The text reads as an equal literal. -/
def Survives (x : Literal) : Prop := ∃ y, Notation.parse (write x) = .ok y ∧ (y == x) = true

theorem survives_iff : x.Survives ↔ x.Regular ∧ x.Stands [] := by
  constructor
  · rintro ⟨y, hparse, hbeq⟩
    obtain ⟨rfl, hstands⟩ := exact_of_beq hparse hbeq
    exact ⟨regular_of_parse hparse, hstands⟩
  · rintro ⟨hregular, hstands⟩
    exact ⟨x, parse_write hregular hstands, beq_self hregular⟩

/-- What a text denotes is read back as an equal literal if and only if it stands alone:
every date in it is of the years 0 to 9999 in UTC, and no regex literal in it leaves a
class open that is closed by what is written after it. -/
theorem reads_back_iff_stands {text : String} (h : Literal.parse text = .ok x) :
    (∃ y, Literal.parse x.text = .ok y ∧ (y == x) = true) ↔ x.Stands [] := by
  have hsurvives : (∃ y, Literal.parse x.text = .ok y ∧ (y == x) = true) ↔ x.Survives := by
    rw [Literal.Survives, Literal.text, Literal.parse, String.toList_ofList]
  rw [hsurvives, survives_iff]
  exact ⟨And.right, fun hstands => ⟨regular_of_parse h, hstands⟩⟩

theorem reads_back_iff_stands_offset :
    Literal.parse "0000-01-01T00:00:00+01:00" = .ok (.date ⟨-62167222800, 0, by decide⟩) ∧
      ¬∃ y, Literal.parse (Literal.text (.date ⟨-62167222800, 0, by decide⟩)) = .ok y ∧
        (y == .date ⟨-62167222800, 0, by decide⟩) = true := by
  have h : Literal.parse "0000-01-01T00:00:00+01:00" =
    .ok (.date ⟨-62167222800, 0, by decide⟩) := rfl
  refine ⟨h, fun hback => ?_⟩
  obtain ⟨hyear, -⟩ := (reads_back_iff_stands h).1 hback
  exact absurd hyear (by decide)

end RuleBook.Literal
