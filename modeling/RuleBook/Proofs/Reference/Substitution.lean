import RuleBook.Proofs.Literal.Lookup
import RuleBook.Reference

/-!
# Putting values in the place of markers

A head without markers stays as it is.  What is put in the place of markers is not looked
into, so a head is free of markers afterwards when the values are.
-/

namespace RuleBook.Reference

open Literal

variable {resolve : Literal → Literal}

theorem occursInItems_eq_any (items : List Literal) :
    occursInItems items = items.any occursIn := by
  induction items with
  | nil => rfl
  | cons item items ih => rw [occursInItems, ih, List.any_cons]

theorem occursInEntries_eq_any (entries : List (String × Literal)) :
    occursInEntries entries =
      entries.any fun entry => entry.1 == markerKey || occursIn entry.2 := by
  induction entries with
  | nil => rfl
  | cons entry entries ih => rw [occursInEntries, ih, List.any_cons]

theorem substituteItems_eq_map (items : List Literal) :
    substituteItems resolve items = items.map (substitute resolve) := by
  induction items with
  | nil => rfl
  | cons item items ih => rw [substituteItems, ih, List.map_cons]

theorem substituteEntries_eq_map (entries : List (String × Literal)) :
    substituteEntries resolve entries =
      entries.map fun entry => (entry.1, substitute resolve entry.2) := by
  induction entries with
  | nil => rfl
  | cons entry entries ih => rw [substituteEntries, ih, List.map_cons]

section

variable {entries : List (String × Literal)}

theorem substitute_marker {target : Literal} (h : lookup markerKey entries = some target) :
    substitute resolve (.mapping entries) = resolve target := by
  rw [substitute, h]

theorem substitute_mapping (h : lookup markerKey entries = none) :
    substitute resolve (.mapping entries) = .mapping (substituteEntries resolve entries) := by
  rw [substitute, h]

theorem lookup_markerKey_of_not_occursIn (h : occursIn (.mapping entries) = false) :
    lookup markerKey entries = none := by
  rw [occursIn, occursInEntries_eq_any, List.any_eq_false] at h
  refine lookup_eq_none_iff.2 fun entry hentry => ?_
  have hkey := h entry hentry
  simp only [Bool.or_eq_true, beq_iff_eq, not_or] at hkey
  exact hkey.1

end

mutual

theorem substitute_of_not_occursIn : ∀ {x : Literal}, occursIn x = false →
    substitute resolve x = x
  | .mapping entries, h => by
      rw [substitute_mapping (lookup_markerKey_of_not_occursIn h),
        substituteEntries_of_not_occursIn h]
  | .sequence items, h => by rw [substitute, substituteItems_of_not_occursIn h]
  | .null, _ => rfl
  | .bool _, _ => rfl
  | .number _, _ => rfl
  | .string _, _ => rfl
  | .date _, _ => rfl
  | .regex _, _ => rfl
  | .binary _, _ => rfl

theorem substituteItems_of_not_occursIn : ∀ {items : List Literal},
    occursInItems items = false → substituteItems resolve items = items
  | [], _ => rfl
  | item :: items, h => by
      rw [occursInItems, Bool.or_eq_false_iff] at h
      rw [substituteItems, substitute_of_not_occursIn h.1, substituteItems_of_not_occursIn h.2]

theorem substituteEntries_of_not_occursIn : ∀ {entries : List (String × Literal)},
    occursInEntries entries = false → substituteEntries resolve entries = entries
  | [], _ => rfl
  | (key, value) :: entries, h => by
      simp only [occursInEntries, Bool.or_eq_false_iff] at h
      rw [substituteEntries, substitute_of_not_occursIn h.1.2,
        substituteEntries_of_not_occursIn h.2]

end

theorem occursInEntries_cons (entry : String × Literal) (entries : List (String × Literal)) :
    occursInEntries (entry :: entries) = false ↔
      (entry.1 ≠ markerKey ∧ occursIn entry.2 = false) ∧ occursInEntries entries = false := by
  simp [occursInEntries]

mutual

theorem occursIn_substitute (hresolve : ∀ target, occursIn (resolve target) = false) :
    ∀ x : Literal, occursIn (substitute resolve x) = false
  | .mapping entries => by
      cases hlookup : lookup markerKey entries with
      | some target =>
          rw [substitute_marker hlookup]
          exact hresolve target
      | none =>
          rw [substitute_mapping hlookup]
          exact occursInEntries_substitute hresolve entries (lookup_eq_none_iff.1 hlookup)
  | .sequence items => by
      rw [substitute]
      exact occursInItems_substitute hresolve items
  | .null => rfl
  | .bool _ => rfl
  | .number _ => rfl
  | .string _ => rfl
  | .date _ => rfl
  | .regex _ => rfl
  | .binary _ => rfl

theorem occursInItems_substitute (hresolve : ∀ target, occursIn (resolve target) = false) :
    ∀ items : List Literal, occursInItems (substituteItems resolve items) = false
  | [] => rfl
  | item :: items => by
      rw [substituteItems, occursInItems, occursIn_substitute hresolve item,
        occursInItems_substitute hresolve items]
      rfl

theorem occursInEntries_substitute (hresolve : ∀ target, occursIn (resolve target) = false) :
    ∀ entries : List (String × Literal), (∀ entry ∈ entries, entry.1 ≠ markerKey) →
      occursInEntries (substituteEntries resolve entries) = false
  | [], _ => rfl
  | (key, value) :: entries, h => by
      obtain ⟨hkey, hmore⟩ := List.forall_mem_cons.1 h
      rw [substituteEntries, occursInEntries_cons]
      exact ⟨⟨hkey, occursIn_substitute hresolve value⟩,
        occursInEntries_substitute hresolve entries hmore⟩

end

/-- What holds of a container holds of each value in it as well. -/
structure Inherited (P : Literal → Prop) : Prop where
  item : ∀ {items : List Literal}, P (.sequence items) → ∀ item ∈ items, P item
  entry : ∀ {entries : List (String × Literal)}, P (.mapping entries) →
    ∀ entry ∈ entries, P entry.2

namespace Inherited

variable {P : Literal → Prop} {document value : Literal}

theorem step? (h : Inherited P) {token : List Char} (hdocument : P document)
    (hvalue : Pointer.step? document token = some value) : P value := by
  cases document with
  | mapping entries => exact h.entry hdocument _ (mem_of_lookup hvalue)
  | sequence items =>
      obtain ⟨i, -, hi⟩ := Option.bind_eq_some_iff.1 hvalue
      exact h.item hdocument value (List.mem_of_getElem? hi)
  | _ => cases hvalue

theorem descend? (h : Inherited P) {tokens : List (List Char)} (hdocument : P document)
    (hvalue : Pointer.descend? document tokens = some value) : P value := by
  induction tokens generalizing document with
  | nil =>
      cases hvalue
      exact hdocument
  | cons token tokens ih =>
      obtain ⟨next, hnext, hmore⟩ := Option.bind_eq_some_iff.1 hvalue
      exact ih (h.step? hdocument hnext) hmore

theorem target (h : Inherited P) (hnan : P .nan) {record : Literal} (hrecord : P record)
    (x : Literal) : P (target record x) := by
  cases x with
  | string pointer =>
      rw [Reference.target]
      cases hvalue : Pointer.resolve? record pointer.toList with
      | none => exact hnan
      | some value =>
          obtain ⟨tokens, -, hdescend⟩ := Option.bind_eq_some_iff.1 hvalue
          exact h.descend? hrecord hdescend
  | _ => exact hnan

end Inherited

theorem inherited_not_occursIn : Inherited fun x => occursIn x = false where
  item h item hitem := by
    rw [occursIn, occursInItems_eq_any, List.any_eq_false] at h
    simpa using h item hitem
  entry h entry hentry := by
    rw [occursIn, occursInEntries_eq_any, List.any_eq_false] at h
    have hvalue := h entry hentry
    simp only [Bool.or_eq_true, not_or, Bool.not_eq_true] at hvalue
    exact hvalue.2

theorem occursIn_target {record : Literal} (hrecord : occursIn record = false) (x : Literal) :
    occursIn (target record x) = false :=
  inherited_not_occursIn.target rfl hrecord x

end RuleBook.Reference
