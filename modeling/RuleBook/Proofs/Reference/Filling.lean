import RuleBook.Proofs.Reference.Substitution
import Mathlib.Data.List.Forall2

/-!
# Heads with their markers filled in

The literals that a head can become when each of its markers stands for some value, and
the one it becomes when no marker leads anywhere.
-/

namespace RuleBook.Reference

open Literal

def isMarker : Literal → Bool
  | .mapping entries => (lookup markerKey entries).isSome
  | _ => false

mutual

def targets : Literal → List Literal
  | .sequence items => targetsOfItems items
  | .mapping entries =>
      match lookup markerKey entries with
      | some target => [target]
      | none => targetsOfEntries entries
  | _ => []

def targetsOfItems : List Literal → List Literal
  | [] => []
  | item :: items => targets item ++ targetsOfItems items

def targetsOfEntries : List (String × Literal) → List Literal
  | [] => []
  | (_, value) :: entries => targets value ++ targetsOfEntries entries

end

mutual

/-- The second literal is the first one with some value in the place of each marker. -/
def Fills : Literal → Literal → Prop
  | .sequence xs, y => ∃ ys, y = .sequence ys ∧ FillsItems xs ys
  | .mapping xs, y =>
      (lookup markerKey xs).isSome = true ∨ ∃ ys, y = .mapping ys ∧ FillsEntries xs ys
  | x, y => x = y

def FillsItems : List Literal → List Literal → Prop
  | [], ys => ys = []
  | x :: xs, all => ∃ y ys, all = y :: ys ∧ Fills x y ∧ FillsItems xs ys

def FillsEntries : List (String × Literal) → List (String × Literal) → Prop
  | [], ys => ys = []
  | (key, x) :: xs, all => ∃ y ys, all = (key, y) :: ys ∧ Fills x y ∧ FillsEntries xs ys

end

def blank (x : Literal) : Literal := substitute (fun _ => .nan) x

mutual

theorem substitute_congr {resolve resolve' : Literal → Literal} : ∀ {x : Literal},
    (∀ target ∈ targets x, resolve target = resolve' target) →
      substitute resolve x = substitute resolve' x
  | .mapping entries, h => by
      rw [substitute, substitute]
      rw [targets] at h
      cases hlookup : lookup markerKey entries with
      | some target =>
          rw [hlookup] at h
          exact h target (by simp)
      | none =>
          rw [hlookup] at h
          exact congrArg Literal.mapping (substituteEntries_congr h)
  | .sequence items, h => by
      rw [substitute, substitute, substituteItems_congr h]
  | .null, _ => rfl
  | .bool _, _ => rfl
  | .number _, _ => rfl
  | .string _, _ => rfl
  | .date _, _ => rfl
  | .regex _, _ => rfl
  | .binary _, _ => rfl

theorem substituteItems_congr {resolve resolve' : Literal → Literal} : ∀ {items : List Literal},
    (∀ target ∈ targetsOfItems items, resolve target = resolve' target) →
      substituteItems resolve items = substituteItems resolve' items
  | [], _ => rfl
  | item :: items, h => by
      obtain ⟨hitem, hmore⟩ := List.forall_mem_append.1 h
      rw [substituteItems, substituteItems, substitute_congr hitem, substituteItems_congr hmore]

theorem substituteEntries_congr {resolve resolve' : Literal → Literal} :
    ∀ {entries : List (String × Literal)},
    (∀ target ∈ targetsOfEntries entries, resolve target = resolve' target) →
      substituteEntries resolve entries = substituteEntries resolve' entries
  | [], _ => rfl
  | (key, value) :: entries, h => by
      obtain ⟨hvalue, hmore⟩ := List.forall_mem_append.1 h
      rw [substituteEntries, substituteEntries, substitute_congr hvalue,
        substituteEntries_congr hmore]

end

theorem dereference_eq_blank {head record : Literal}
    (h : ∀ pointer, .string pointer ∈ targets head →
      Pointer.resolve? record pointer.toList = none) :
    dereference head record = blank head := by
  refine substitute_congr fun x hx => ?_
  cases x with
  | string pointer => rw [target, h pointer hx, Option.getD_none]
  | _ => rfl

section

variable {x y : Literal} {xs ys : List (String × Literal)}

theorem blank_of_isMarker (h : isMarker x = true) : blank x = .nan := by
  cases x with
  | mapping entries =>
      obtain ⟨target, htarget⟩ := Option.isSome_iff_exists.1 h
      exact substitute_marker htarget
  | _ => cases h

theorem Fills.cases (h : Fills x y) (hmarker : isMarker x = false) :
    (y = x ∧ blank x = x) ∨
      (∃ items items', x = .sequence items ∧ y = .sequence items' ∧ FillsItems items items') ∨
      ∃ xs ys, x = .mapping xs ∧ y = .mapping ys ∧ FillsEntries xs ys ∧
        blank x = .mapping (substituteEntries (fun _ => .nan) xs) := by
  cases x with
  | sequence items =>
      obtain ⟨items', rfl, hitems⟩ := h
      exact .inr (.inl ⟨items, items', rfl, rfl, hitems⟩)
  | mapping xs =>
      rcases h with h | ⟨ys, rfl, hentries⟩
      · rw [isMarker, h] at hmarker
        cases hmarker
      · exact .inr (.inr ⟨xs, ys, rfl, rfl, hentries,
          substitute_mapping (Option.isNone_iff_eq_none.1 (by simpa [isMarker] using hmarker))⟩)
  | _ => exact .inl ⟨h.symm, rfl⟩

theorem exists_pair_of_fillsItems {items : List Literal} (h : FillsItems items [x, y]) :
    ∃ a b, items = [a, b] ∧ Fills a x ∧ Fills b y := by
  cases items with
  | nil => cases h
  | cons a items =>
      obtain ⟨_, _, ⟨⟩, ha, h⟩ := h
      cases items with
      | nil => cases h
      | cons b items =>
          obtain ⟨_, _, ⟨⟩, hb, h⟩ := h
          cases items with
          | nil => exact ⟨a, b, rfl, ha, hb⟩
          | cons c items => obtain ⟨_, _, ⟨⟩, -⟩ := h

theorem rel_lookup_of_fillsEntries (h : FillsEntries xs ys) (key : String) :
    Option.Rel Fills (lookup key xs) (lookup key ys) := by
  induction xs generalizing ys with
  | nil =>
      obtain rfl := h
      exact .none
  | cons entry xs ih =>
      obtain ⟨k, x⟩ := entry
      obtain ⟨y, ys, rfl, hxy, hmore⟩ := h
      rw [lookup, lookup]
      split
      · exact .some hxy
      · exact ih hmore

theorem lookup_substituteEntries (resolve : Literal → Literal) (key : String) :
    lookup key (substituteEntries resolve xs) = (lookup key xs).map (substitute resolve) := by
  induction xs with
  | nil => rfl
  | cons entry xs ih =>
      obtain ⟨k, x⟩ := entry
      rw [substituteEntries, lookup, lookup, ih]
      split <;> rfl

end

end RuleBook.Reference
