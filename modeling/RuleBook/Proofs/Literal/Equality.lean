import RuleBook.Proofs.Literal.Equivalence
import RuleBook.Proofs.Notation.Marks

/-!
# Equal literals from texts

What texts denote has unique keys, so it equals itself.  Equality disregards the order of
entries: those of an equal mapping are found one after the other and taken out of it, which
leaves no marks over.
-/

namespace RuleBook.Literal

open Notation

section

variable {key : String} {value : Literal} {as bs : List (String × Literal)}

private def without (key : String) (entries : List (String × Literal)) :
    List (String × Literal) := entries.eraseP fun entry => entry.1 == key

private theorem without_spec (h : lookup key bs = some value) :
    entriesWeight bs = marks key.toList + value.weight + entriesWeight (without key bs) ∧
      bs.length = (without key bs).length + 1 ∧
      ∀ other, other ≠ key → lookup other (without key bs) = lookup other bs := by
  induction bs with
  | nil => cases h
  | cons entry bs ih =>
      obtain ⟨k, old⟩ := entry
      rw [lookup] at h
      by_cases hk : k = key
      · subst hk
        rw [if_pos rfl] at h
        cases h
        have herase : without k ((k, value) :: bs) = bs := by simp [without]
        rw [herase]
        exact ⟨rfl, rfl, fun other hne => by rw [lookup, if_neg (Ne.symm hne)]⟩
      · rw [if_neg hk] at h
        obtain ⟨h1, h2, h3⟩ := ih h
        have herase : without key ((k, old) :: bs) = (k, old) :: without key bs := by
          simp [without, hk]
        rw [herase]
        refine ⟨?_, by simp [h2], fun other hne => ?_⟩
        · simp only [entriesWeight]
          omega
        · rw [lookup, lookup, h3 other hne]

theorem entriesWeight_le_of_lookup (hnodup : (as.map Prod.fst).Nodup)
    (hlength : bs.length ≤ as.length)
    (h : ∀ entry ∈ as, ∃ b, lookup entry.1 bs = some b ∧ b.weight ≤ entry.2.weight) :
    entriesWeight bs ≤ entriesWeight as := by
  induction as generalizing bs with
  | nil => rw [List.eq_nil_of_length_eq_zero (Nat.le_zero.1 hlength)]
  | cons entry as ih =>
      obtain ⟨key, a⟩ := entry
      rw [List.map_cons, List.nodup_cons] at hnodup
      obtain ⟨⟨b, hb, hweight⟩, hrest⟩ := List.forall_mem_cons.1 h
      obtain ⟨hsplit, hcount, hothers⟩ := without_spec hb
      dsimp only at hsplit hcount hothers hweight
      have hshort : (without key bs).length ≤ as.length := by
        rw [List.length_cons] at hlength
        omega
      have hweights := ih hnodup.2 hshort fun entry hentry => by
        rw [hothers entry.1 fun heq => hnodup.1 (List.mem_map.2 ⟨entry, hentry, heq⟩)]
        exact hrest entry hentry
      rw [hsplit]
      simp only [entriesWeight]
      omega

theorem itemsWeight_le_of_forall₂ {xs ys : List Literal}
    (h : List.Forall₂ (fun x y => y.weight ≤ x.weight) xs ys) : itemsWeight ys ≤ itemsWeight xs := by
  induction h with
  | nil => exact Nat.le_refl _
  | cons hitem _ ih => exact Nat.add_le_add hitem ih

end

theorem weight_le_of_beq {x y : Literal} (hx : x.UniqueKeys) (h : x.beq y = true) :
    y.weight ≤ x.weight := by
  induction x using inductionOnMembers generalizing y with
  | number a =>
      cases y with
      | number b => exact Nat.le_refl _
      | _ => cases h
  | sequence xs ih =>
      cases y with
      | sequence ys =>
          rw [UniqueKeys, uniqueKeysItems_iff] at hx
          rw [beq, beqItems_iff] at h
          exact Nat.succ_le_succ (itemsWeight_le_of_forall₂
            (forall₂_imp_of_mem h fun x hmem _ hxy => ih x hmem (hx x hmem) hxy))
      | _ => cases h
  | mapping as ih =>
      cases y with
      | mapping bs =>
          obtain ⟨hnodup, hvalues⟩ := hx
          rw [uniqueKeysEntries_iff] at hvalues
          rw [beq, Bool.and_eq_true, beq_iff_eq, beqEntries_iff] at h
          refine Nat.succ_le_succ (entriesWeight_le_of_lookup hnodup (Nat.le_of_eq h.1.symm)
            fun entry hentry => ?_)
          obtain ⟨b, hb, hbeq⟩ := h.2 entry hentry
          exact ⟨b, hb, ih entry hentry (hvalues entry hentry) hbeq⟩
      | _ => cases h
  | _ =>
      obtain rfl := eq_of_beq_scalar h (by simp) (by simp) (by simp)
      exact Nat.le_refl _

theorem beq_self {x : Literal} (h : x.Regular) : x.beq x = true := beq_refl h.uniqueKeys

end RuleBook.Literal
