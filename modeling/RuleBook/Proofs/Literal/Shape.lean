import RuleBook.Notation.Write
import RuleBook.Proofs.Literal.Reordering
import RuleBook.Proofs.Notation.Regex

/-!
# Shapes of literals

Literals come from texts, from records and from callers.  Those from texts have unique
keys and regex literals that the grammar allows; plain ones have no regex literals and
no dates beyond four digits of the year.  Whether a literal stands in its own text
depends on what is written after each of its members.
-/

namespace RuleBook.Literal

open Notation

mutual

/-- What texts denote: keys are unique, and regex literals are as the grammar reads
them. -/
def Regular : Literal → Prop
  | .regex r => r.IsWritable
  | .binary _ => False
  | .sequence items => RegularItems items
  | .mapping entries => (entries.map Prod.fst).Nodup ∧ RegularEntries entries
  | _ => True

def RegularItems : List Literal → Prop
  | [] => True
  | item :: items => item.Regular ∧ RegularItems items

def RegularEntries : List (String × Literal) → Prop
  | [] => True
  | (_, value) :: entries => value.Regular ∧ RegularEntries entries

end

mutual

/-- Built from null, booleans, numbers, strings and dates of the years 0 to 9999 in UTC,
with unique keys. -/
def Plain : Literal → Prop
  | .date t => 0 ≤ t.date.year ∧ t.date.year ≤ 9999
  | .regex _ => False
  | .binary _ => False
  | .sequence items => PlainItems items
  | .mapping entries => (entries.map Prod.fst).Nodup ∧ PlainEntries entries
  | _ => True

def PlainItems : List Literal → Prop
  | [] => True
  | item :: items => item.Plain ∧ PlainItems items

def PlainEntries : List (String × Literal) → Prop
  | [] => True
  | (_, value) :: entries => value.Plain ∧ PlainEntries entries

end

mutual

/-- Whether dates and regex literals are kept by what is written after them: the year of
a date has four digits, and a class that a regex literal leaves open is not closed
behind it. -/
def Stands : Literal → List Char → Prop
  | .date t, _ => 0 ≤ t.date.year ∧ t.date.year ≤ 9999
  | .regex r, rest => r.Stands rest
  | .binary _, _ => False
  | .sequence items, rest => StandsItems items rest
  | .mapping entries, rest => StandsEntries entries rest
  | _, _ => True

def StandsItems : List Literal → List Char → Prop
  | [], _ => True
  | item :: items, rest => item.Stands (writeItems items ++ rest) ∧ StandsItems items rest

def StandsEntries : List (String × Literal) → List Char → Prop
  | [], _ => True
  | (_, value) :: entries, rest =>
      value.Stands (writeEntries entries ++ rest) ∧ StandsEntries entries rest

end

mutual

theorem Plain.regular : ∀ {x : Literal}, x.Plain → x.Regular
  | .null, _ => trivial
  | .bool _, _ => trivial
  | .number _, _ => trivial
  | .string _, _ => trivial
  | .date _, _ => trivial
  | .sequence _, h => PlainItems.regular h
  | .mapping _, h => ⟨h.1, PlainEntries.regular h.2⟩

theorem PlainItems.regular : ∀ {items : List Literal}, PlainItems items → RegularItems items
  | [], _ => trivial
  | _ :: _, h => ⟨h.1.regular, PlainItems.regular h.2⟩

theorem PlainEntries.regular : ∀ {entries : List (String × Literal)},
    PlainEntries entries → RegularEntries entries
  | [], _ => trivial
  | _ :: _, h => ⟨h.1.regular, PlainEntries.regular h.2⟩

end

mutual

theorem Regular.uniqueKeys : ∀ {x : Literal}, x.Regular → x.UniqueKeys
  | .null, _ => trivial
  | .bool _, _ => trivial
  | .number _, _ => trivial
  | .string _, _ => trivial
  | .date _, _ => trivial
  | .regex _, _ => trivial
  | .sequence _, h => RegularItems.uniqueKeys h
  | .mapping _, h => ⟨h.1, RegularEntries.uniqueKeys h.2⟩

theorem RegularItems.uniqueKeys : ∀ {items : List Literal},
    RegularItems items → UniqueKeysItems items
  | [], _ => trivial
  | _ :: _, h => ⟨h.1.uniqueKeys, RegularItems.uniqueKeys h.2⟩

theorem RegularEntries.uniqueKeys : ∀ {entries : List (String × Literal)},
    RegularEntries entries → UniqueKeysEntries entries
  | [], _ => trivial
  | _ :: _, h => ⟨h.1.uniqueKeys, RegularEntries.uniqueKeys h.2⟩

end

mutual

theorem Plain.stands : ∀ {x : Literal}, x.Plain → ∀ rest, x.Stands rest
  | .null, _, _ => trivial
  | .bool _, _, _ => trivial
  | .number _, _, _ => trivial
  | .string _, _, _ => trivial
  | .date _, h, _ => h
  | .sequence _, h, rest => PlainItems.stands h rest
  | .mapping _, h, rest => PlainEntries.stands h.2 rest

theorem PlainItems.stands : ∀ {items : List Literal}, PlainItems items → ∀ rest,
    StandsItems items rest
  | [], _, _ => trivial
  | _ :: _, h, rest => ⟨h.1.stands _, PlainItems.stands h.2 rest⟩

theorem PlainEntries.stands : ∀ {entries : List (String × Literal)}, PlainEntries entries →
    ∀ rest, StandsEntries entries rest
  | [], _, _ => trivial
  | _ :: _, h, rest => ⟨h.1.stands _, PlainEntries.stands h.2 rest⟩

end

section

variable {entries : List (String × Literal)}

theorem regularItems_iff {items : List Literal} :
    RegularItems items ↔ ∀ item ∈ items, item.Regular := by
  induction items with
  | nil => simp [RegularItems]
  | cons item items ih => simp [RegularItems, ih]

theorem regularEntries_iff : RegularEntries entries ↔ ∀ entry ∈ entries, entry.2.Regular := by
  induction entries with
  | nil => simp [RegularEntries]
  | cons entry entries ih => simp [RegularEntries, ih]

theorem regular_ofEntries (h : ∀ entry ∈ entries, entry.2.Regular) :
    (ofEntries entries).Regular := by
  obtain ⟨kept, heq, hnodup, hmem⟩ := ofEntries_spec entries
  rw [heq]
  exact ⟨hnodup, regularEntries_iff.2 fun entry hentry => h entry (hmem entry hentry)⟩

end

end RuleBook.Literal
