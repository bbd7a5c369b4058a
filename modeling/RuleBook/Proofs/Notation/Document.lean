import RuleBook.Notation.Parse
import RuleBook.Proofs.Notation.Container

/-!
# Whole texts

A text denotes a value when nothing but layout is left after it, and otherwise one line
of unquoted text.
-/

namespace RuleBook.Notation

open Reader

def toEnd (p : Reader Built) : Reader Built := do
  let value ← p
  skip skipLayout
  endOfText
  return value

def plainLine : Reader Built := (fun text => .ok (plainOf text)) <$> token plainLineForm

theorem read_toEnd (p : Reader Built) (text : List Char) :
    read (toEnd p) text = (read p text).bind fun found =>
      if skipLayout found.2 = [] then some (found.1, []) else none := by
  rw [toEnd, read_bind]
  congr 1
  funext found
  rw [read_bind, read_skip, Option.bind_some, read_bind, endOfText, read_token]
  dsimp only
  cases skipLayout found.2 <;> rfl

theorem read_document (fuel : Nat) (text : List Char) :
    read (document fuel) text =
      (read (toEnd (value fuel)) (skipLayout text)).or
        (read (toEnd plainLine) (skipLayout text)) := by
  rw [← read_orElse]
  rfl

theorem parse_eq_ok_iff {text : List Char} {x : Literal} :
    parse text = .ok x ↔ ∃ rest, read (document (text.length + 1)) text = some (.ok x, rest) := by
  have hresult : (document (text.length + 1) text).result =
      read (document (text.length + 1)) text := rfl
  dsimp only [parse]
  rw [hresult]
  cases read (document (text.length + 1)) text with
  | none => simp
  | some found =>
      obtain ⟨value, rest⟩ := found
      simp

theorem parse_ok_cases {text : List Char} {x : Literal} (h : parse text = .ok x) :
    (∃ rest, read (value (text.length + 1)) (skipLayout text) = some (.ok x, rest) ∧
      skipLayout rest = []) ∨
    ∃ line rest, plainLineForm (skipLayout text) = some (line, rest) ∧ x = plainOf line := by
  obtain ⟨rest, hread⟩ := parse_eq_ok_iff.1 h
  rw [read_document, Option.or_eq_some_iff, read_toEnd, read_toEnd] at hread
  rcases hread with hread | ⟨-, hread⟩
  · obtain ⟨⟨y, rest'⟩, hvalue, hend⟩ := Option.bind_eq_some_iff.1 hread
    split at hend
    · next hnil =>
      cases hend
      exact .inl ⟨rest', hvalue, hnil⟩
    · cases hend
  · obtain ⟨⟨y, rest'⟩, hline, hend⟩ := Option.bind_eq_some_iff.1 hread
    split at hend
    · cases hend
      obtain ⟨line, hform, ⟨⟩⟩ := read_map_inv hline
      exact .inr ⟨line, _, hform, rfl⟩
    · cases hend

theorem parse_of_read_value {text rest : List Char} {built : Built}
    (h : read (value (text.length + 1)) (skipLayout text) = some (built, rest))
    (hrest : skipLayout rest = []) : parse text = built := by
  have hdocument : (document (text.length + 1) text).result = some (built, []) := by
    change read (document (text.length + 1)) text = _
    rw [read_document, read_toEnd, h, Option.bind_some, if_pos hrest, Option.some_or]
  dsimp only [parse]
  rw [hdocument]

end RuleBook.Notation
