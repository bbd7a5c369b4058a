import RuleBook.Literal.Equality
import RuleBook.Proofs.Literal.Lookup
import Mathlib.Data.List.Forall2

/-!
# Literals up to the order of entries

Two literals that differ in the order of mapping entries alone, at any depth.  Where keys
are unique, the lookup of a key finds such a pair again, so that everything defined from
lookups treats them alike.
-/

namespace RuleBook

section

variable {α β : Type} {R : α → β → Prop} {xs : List α} {ys : List β} {f : α → Bool} {g : β → Bool}

theorem any_eq_of_forall₂ (h : List.Forall₂ R xs ys) (hfg : ∀ x y, R x y → f x = g y) :
    xs.any f = ys.any g := by
  induction h with
  | nil => rfl
  | cons hxy _ ih => rw [List.any_cons, List.any_cons, hfg _ _ hxy, ih]

theorem all_eq_of_forall₂ (h : List.Forall₂ R xs ys) (hfg : ∀ x y, R x y → f x = g y) :
    xs.all f = ys.all g := by
  induction h with
  | nil => rfl
  | cons hxy _ ih => rw [List.all_cons, List.all_cons, hfg _ _ hxy, ih]

theorem forall₂_imp_of_mem {S : α → β → Prop} (h : List.Forall₂ R xs ys)
    (himp : ∀ x ∈ xs, ∀ {y}, R x y → S x y) : List.Forall₂ S xs ys := by
  induction h with
  | nil => exact .nil
  | cons hxy _ ih =>
      rw [List.forall_mem_cons] at himp
      exact .cons (himp.1 hxy) (ih himp.2)

theorem rel_getElem? (h : List.Forall₂ R xs ys) (i : Nat) : Option.Rel R xs[i]? ys[i]? := by
  induction h generalizing i with
  | nil => exact .none
  | cons hxy _ ih =>
      cases i with
      | zero => exact .some hxy
      | succ i => simpa using ih i

theorem isSome_eq_of_rel {a : Option α} {b : Option β} (h : Option.Rel R a b) :
    a.isSome = b.isSome := by
  cases h <;> rfl

theorem forall₂_toList {a : Option α} {b : Option β} (h : Option.Rel R a b) :
    List.Forall₂ R a.toList b.toList := by
  cases h with
  | none => exact .nil
  | some h => exact .cons h .nil

end

namespace Literal

mutual

def UniqueKeys : Literal → Prop
  | .sequence items => UniqueKeysItems items
  | .mapping entries => (entries.map Prod.fst).Nodup ∧ UniqueKeysEntries entries
  | _ => True

def UniqueKeysItems : List Literal → Prop
  | [] => True
  | item :: items => item.UniqueKeys ∧ UniqueKeysItems items

def UniqueKeysEntries : List (String × Literal) → Prop
  | [] => True
  | (_, value) :: entries => value.UniqueKeys ∧ UniqueKeysEntries entries

end

theorem uniqueKeysItems_iff {items : List Literal} :
    UniqueKeysItems items ↔ ∀ item ∈ items, item.UniqueKeys := by
  induction items with
  | nil => simp [UniqueKeysItems]
  | cons item items ih => simp [UniqueKeysItems, ih]

theorem uniqueKeysEntries_iff {entries : List (String × Literal)} :
    UniqueKeysEntries entries ↔ ∀ entry ∈ entries, entry.2.UniqueKeys := by
  induction entries with
  | nil => simp [UniqueKeysEntries]
  | cons entry entries ih => simp [UniqueKeysEntries, ih]

mutual

/-- The same but for the order of the entries of mappings: the values of a mapping may be
reordered in themselves, and its entries among each other. -/
def Reordered : Literal → Literal → Prop
  | .sequence xs, y => ∃ ys, y = .sequence ys ∧ ReorderedItems xs ys
  | .mapping xs, y => ∃ ys zs, y = .mapping ys ∧ zs.Perm ys ∧ ReorderedEntries xs zs
  | x, y => x = y

def ReorderedItems : List Literal → List Literal → Prop
  | [], ys => ys = []
  | x :: xs, all => ∃ y ys, all = y :: ys ∧ x.Reordered y ∧ ReorderedItems xs ys

def ReorderedEntries : List (String × Literal) → List (String × Literal) → Prop
  | [], ys => ys = []
  | (key, x) :: xs, all =>
      ∃ y ys, all = (key, y) :: ys ∧ x.Reordered y ∧ ReorderedEntries xs ys

end

/-- What nothing defined from lookups can tell apart. -/
structure Akin (x y : Literal) : Prop where
  uniqueKeys : x.UniqueKeys
  reordered : x.Reordered y

def AkinEntry (x y : String × Literal) : Prop := x.1 = y.1 ∧ Akin x.2 y.2

section

variable {x y : Literal} {xs ys zs : List (String × Literal)}

theorem forall₂_akin_iff {xs ys : List Literal} :
    List.Forall₂ Akin xs ys ↔ UniqueKeysItems xs ∧ ReorderedItems xs ys := by
  induction xs generalizing ys with
  | nil => simp [UniqueKeysItems, ReorderedItems]
  | cons x xs ih =>
      simp only [List.forall₂_cons_left_iff, ih, UniqueKeysItems, ReorderedItems]
      constructor
      · rintro ⟨y, more, ⟨h1, h2⟩, ⟨h3, h4⟩, rfl⟩
        exact ⟨⟨h1, h3⟩, y, more, rfl, h2, h4⟩
      · rintro ⟨⟨h1, h3⟩, y, more, rfl, h2, h4⟩
        exact ⟨y, more, ⟨h1, h2⟩, ⟨h3, h4⟩, rfl⟩

theorem forall₂_akinEntry_iff :
    List.Forall₂ AkinEntry xs zs ↔ UniqueKeysEntries xs ∧ ReorderedEntries xs zs := by
  induction xs generalizing zs with
  | nil => simp [UniqueKeysEntries, ReorderedEntries]
  | cons entry xs ih =>
      obtain ⟨key, x⟩ := entry
      simp only [List.forall₂_cons_left_iff, ih, UniqueKeysEntries, ReorderedEntries]
      constructor
      · rintro ⟨⟨_, y⟩, more, ⟨rfl, h1, h2⟩, ⟨h3, h4⟩, rfl⟩
        exact ⟨⟨h1, h3⟩, y, more, rfl, h2, h4⟩
      · rintro ⟨⟨h1, h3⟩, y, more, rfl, h2, h4⟩
        exact ⟨(key, y), more, ⟨rfl, h1, h2⟩, ⟨h3, h4⟩, rfl⟩

theorem akin_sequence_iff {items : List Literal} :
    Akin (.sequence items) y ↔ ∃ items', y = .sequence items' ∧
      List.Forall₂ Akin items items' := by
  constructor
  · rintro ⟨hunique, items', rfl, hitems⟩
    exact ⟨items', rfl, forall₂_akin_iff.2 ⟨hunique, hitems⟩⟩
  · rintro ⟨items', rfl, h⟩
    obtain ⟨hunique, hitems⟩ := forall₂_akin_iff.1 h
    exact ⟨hunique, items', rfl, hitems⟩

theorem akin_mapping_iff :
    Akin (.mapping xs) y ↔ ∃ ys zs, y = .mapping ys ∧ (xs.map Prod.fst).Nodup ∧ zs.Perm ys ∧
      List.Forall₂ AkinEntry xs zs := by
  constructor
  · rintro ⟨⟨hnodup, hunique⟩, ys, zs, rfl, hperm, hentries⟩
    exact ⟨ys, zs, rfl, hnodup, hperm, forall₂_akinEntry_iff.2 ⟨hunique, hentries⟩⟩
  · rintro ⟨ys, zs, rfl, hnodup, hperm, h⟩
    obtain ⟨hunique, hentries⟩ := forall₂_akinEntry_iff.1 h
    exact ⟨⟨hnodup, hunique⟩, ys, zs, rfl, hperm, hentries⟩

theorem Akin.cases (h : Akin x y) :
    x = y ∨ (∃ items items', x = .sequence items ∧ y = .sequence items' ∧
        List.Forall₂ Akin items items') ∨
      ∃ xs ys, x = .mapping xs ∧ y = .mapping ys ∧ Akin (.mapping xs) (.mapping ys) := by
  cases x with
  | sequence items =>
      obtain ⟨items', rfl, hitems⟩ := akin_sequence_iff.1 h
      exact .inr (.inl ⟨items, items', rfl, rfl, hitems⟩)
  | mapping xs =>
      obtain ⟨ys, zs, rfl, -⟩ := akin_mapping_iff.1 h
      exact .inr (.inr ⟨xs, ys, rfl, rfl, h⟩)
  | _ => exact .inl h.reordered

theorem keys_eq_of_akinEntries (h : List.Forall₂ AkinEntry xs zs) :
    xs.map Prod.fst = zs.map Prod.fst := by
  induction h with
  | nil => rfl
  | cons hentry _ ih => rw [List.map_cons, List.map_cons, hentry.1, ih]

theorem rel_lookup_of_akinEntries (h : List.Forall₂ AkinEntry xs zs) (key : String) :
    Option.Rel Akin (lookup key xs) (lookup key zs) := by
  induction h with
  | nil => exact .none
  | @cons a b _ _ hentry _ ih =>
      obtain ⟨k, x⟩ := a
      obtain ⟨l, y⟩ := b
      obtain ⟨rfl, hxy⟩ := hentry
      rw [lookup, lookup]
      split
      · exact .some hxy
      · exact ih

theorem Akin.lookup (h : Akin (.mapping xs) (.mapping ys)) (key : String) :
    Option.Rel Akin (lookup key xs) (lookup key ys) := by
  obtain ⟨_, zs, ⟨⟩, hnodup, hperm, hentries⟩ := akin_mapping_iff.1 h
  rw [keys_eq_of_akinEntries hentries] at hnodup
  rw [← lookup_of_perm hnodup hperm]
  exact rel_lookup_of_akinEntries hentries key

theorem Akin.get? (h : Akin x y) (key : String) : Option.Rel Akin (x.get? key) (y.get? key) := by
  rcases h.cases with rfl | ⟨_, _, rfl, rfl, -⟩ | ⟨xs, ys, rfl, rfl, hentries⟩
  · cases x with
    | mapping entries => exact h.lookup key
    | _ => exact .none
  · exact .none
  · exact hentries.lookup key

end

theorem sameEntries_eq (as bs : List (String × Literal)) :
    sameEntries as bs = as.all fun entry => (lookup entry.1 bs).any entry.2.same := by
  induction as with
  | nil => rfl
  | cons entry as ih =>
      rw [sameEntries, ih, List.all_cons]
      cases lookup entry.1 bs <;> rfl

theorem same_mapping {xs ys zs vs ws : List (String × Literal)} (hperm : zs.Perm ys)
    (hlength : xs.length = zs.length) (hlength' : vs.length = ws.length)
    (h : sameEntries xs vs = sameEntries zs ws) :
    same (.mapping xs) (.mapping vs) = same (.mapping ys) (.mapping ws) := by
  rw [same, same, hlength, hlength', hperm.length_eq, h, sameEntries_eq, sameEntries_eq,
    hperm.all_eq]

theorem Akin.length_eq {xs ys : List (String × Literal)}
    (h : Akin (.mapping xs) (.mapping ys)) : xs.length = ys.length := by
  obtain ⟨_, zs, ⟨⟩, -, hperm, hentries⟩ := akin_mapping_iff.1 h
  exact hentries.length_eq.trans hperm.length_eq

theorem Akin.same_scalar {x v w : Literal} (hv : Akin v w)
    (hsequence : ∀ items, x ≠ .sequence items)
    (hmapping : ∀ entries, x ≠ .mapping entries) : x.same v = x.same w := by
  rcases hv.cases with rfl | ⟨_, _, rfl, rfl, -⟩ | ⟨_, _, rfl, rfl, -⟩
  · rfl
  · cases x with
    | sequence items => exact absurd rfl (hsequence items)
    | _ => rfl
  · cases x with
    | mapping entries => exact absurd rfl (hmapping entries)
    | _ => rfl

mutual

theorem Akin.same : ∀ {x y v w : Literal}, Akin x y → Akin v w → x.same v = y.same w
  | .null, _, _, _, ⟨_, rfl⟩, hv => hv.same_scalar nofun nofun
  | .bool _, _, _, _, ⟨_, rfl⟩, hv => hv.same_scalar nofun nofun
  | .number _, _, _, _, ⟨_, rfl⟩, hv => hv.same_scalar nofun nofun
  | .string _, _, _, _, ⟨_, rfl⟩, hv => hv.same_scalar nofun nofun
  | .date _, _, _, _, ⟨_, rfl⟩, hv => hv.same_scalar nofun nofun
  | .regex _, _, _, _, ⟨_, rfl⟩, hv => hv.same_scalar nofun nofun
  | .binary _, _, _, _, ⟨_, rfl⟩, hv => hv.same_scalar nofun nofun
  | .sequence items, y, v, w, h, hv => by
      obtain ⟨items', rfl, hitems⟩ := akin_sequence_iff.1 h
      cases v with
      | sequence vs =>
          obtain ⟨ws, rfl, hvs⟩ := akin_sequence_iff.1 hv
          exact sameItems_of_akin hitems hvs
      | mapping vs =>
          obtain ⟨ws, zs, rfl, -⟩ := akin_mapping_iff.1 hv
          rfl
      | _ => obtain ⟨-, rfl⟩ := hv; rfl
  | .mapping xs, y, v, w, h, hv => by
      obtain ⟨ys, zs, rfl, -, hperm, hentries⟩ := akin_mapping_iff.1 h
      cases v with
      | sequence vs =>
          obtain ⟨ws, rfl, -⟩ := akin_sequence_iff.1 hv
          rfl
      | mapping vs =>
          obtain ⟨ws, zs', rfl, -⟩ := akin_mapping_iff.1 hv
          exact same_mapping hperm hentries.length_eq hv.length_eq
            (sameEntries_of_akin hentries hv.lookup)
      | _ => obtain ⟨-, rfl⟩ := hv; rfl

theorem sameItems_of_akin : ∀ {xs ys vs ws : List Literal}, List.Forall₂ Akin xs ys →
    List.Forall₂ Akin vs ws → sameItems xs vs = sameItems ys ws
  | [], _, _, _, .nil, hv => by cases hv <;> rfl
  | x :: xs, _, _, _, .cons hx h, hv => by
      cases hv with
      | nil => rfl
      | cons hv hvs => rw [sameItems, sameItems, hx.same hv, sameItems_of_akin h hvs]

theorem sameEntries_of_akin : ∀ {xs zs vs ws : List (String × Literal)},
    List.Forall₂ AkinEntry xs zs →
    (∀ key, Option.Rel Akin (lookup key vs) (lookup key ws)) →
    sameEntries xs vs = sameEntries zs ws
  | [], _, _, _, .nil, _ => rfl
  | (key, x) :: xs, (_, y) :: zs, vs, ws, .cons ⟨rfl, hx⟩ h, hlookup => by
      rw [sameEntries, sameEntries, sameEntries_of_akin h hlookup]
      have hrel := hlookup key
      generalize lookup key vs = v, lookup key ws = w at hrel ⊢
      cases hrel with
      | none => rfl
      | some hv => exact congrArg (· && _) (Akin.same hx hv)

end

end Literal

end RuleBook
