import RuleBook.Proofs.Literal.Reordering

/-!
# Equality as an equivalence

Equal mappings have one length, and what one of them has under a key the other has an equal of.
This looks from one mapping to the other only.  Where keys are unique, mappings of one length
with all keys of the one among those of the other have the same keys, so that all lookups give
equal values, in whichever direction.  That makes equality an equivalence relation, and reordered
literals are equal.
-/

namespace RuleBook.Literal

section

variable {x y z : Literal}

theorem beq_number_iff {a b : Float} : (number a).beq (number b) = true ↔
    Number.isNaN a = Number.isNaN b ∧
      (Number.isNaN a = false → Number.orderKey a = Number.orderKey b) := by
  rw [beq, Number.equal]
  cases Number.isNaN a <;> cases Number.isNaN b <;> simp

theorem beqItems_iff {xs ys : List Literal} :
    beqItems xs ys = true ↔ List.Forall₂ (fun x y => x.beq y = true) xs ys := by
  induction xs generalizing ys with
  | nil => cases ys <;> simp [beqItems]
  | cons x xs ih =>
      cases ys with
      | nil => simp [beqItems]
      | cons y ys => rw [beqItems, Bool.and_eq_true, ih, List.forall₂_cons]

theorem eq_of_beq_scalar (h : x.beq y = true) (hnumber : ∀ a, x ≠ .number a)
    (hsequence : ∀ items, x ≠ .sequence items) (hmapping : ∀ entries, x ≠ .mapping entries) :
    x = y := by
  cases x with
  | null =>
      cases y with
      | null => rfl
      | _ => cases h
  | bool a =>
      cases y with
      | bool b => exact congrArg _ (eq_of_beq h)
      | _ => cases h
  | number a => exact absurd rfl (hnumber a)
  | string s =>
      cases y with
      | string s' => exact congrArg _ (eq_of_beq h)
      | _ => cases h
  | date t =>
      cases y with
      | date t' => exact congrArg _ (eq_of_beq h)
      | _ => cases h
  | regex r =>
      cases y with
      | regex r' => exact congrArg _ (eq_of_beq h)
      | _ => cases h
  | binary bytes =>
      cases y with
      | binary bytes' => exact congrArg _ (eq_of_beq h)
      | _ => cases h
  | sequence items => exact absurd rfl (hsequence items)
  | mapping entries => exact absurd rfl (hmapping entries)

end

section

variable {as bs : List (String × Literal)}

theorem beqEntries_iff :
    beqEntries as bs = true ↔ ∀ entry ∈ as, ∃ b, lookup entry.1 bs = some b ∧
      entry.2.beq b = true := by
  induction as with
  | nil => simp [beqEntries]
  | cons entry as ih =>
      obtain ⟨k, a⟩ := entry
      rw [beqEntries, Bool.and_eq_true, ih, List.forall_mem_cons]
      refine and_congr_left fun _ => ?_
      cases lookup k bs <;> simp

theorem keys_perm_of_beqEntries (hnodup : (as.map Prod.fst).Nodup)
    (hlength : as.length = bs.length) (h : beqEntries as bs = true) :
    (as.map Prod.fst).Perm (bs.map Prod.fst) := by
  have hsubset : as.map Prod.fst ⊆ bs.map Prod.fst := by
    intro k hk
    obtain ⟨entry, hentry, rfl⟩ := List.mem_map.1 hk
    obtain ⟨b, hb, -⟩ := beqEntries_iff.1 h entry hentry
    exact List.mem_map.2 ⟨_, mem_of_lookup hb, rfl⟩
  exact (List.subperm_of_subset hnodup hsubset).perm_of_length_le (by simp [hlength])

theorem nodup_of_beqEntries (hnodup : (as.map Prod.fst).Nodup)
    (hlength : as.length = bs.length) (h : beqEntries as bs = true) :
    (bs.map Prod.fst).Nodup :=
  (keys_perm_of_beqEntries hnodup hlength h).nodup_iff.1 hnodup

/-- Mappings with unique keys are equal when all lookups give equal values or nothing in both. -/
theorem beq_mapping_iff_lookup (has : (as.map Prod.fst).Nodup) (hbs : (bs.map Prod.fst).Nodup) :
    (mapping as).beq (mapping bs) = true ↔
      ∀ key, Option.Rel (fun a b => a.beq b = true) (lookup key as) (lookup key bs) := by
  rw [beq, Bool.and_eq_true, beq_iff_eq]
  constructor
  · rintro ⟨hlength, h⟩ key
    cases ha : lookup key as with
    | none =>
        have hkeys := (keys_perm_of_beqEntries has hlength h).mem_iff (a := key)
        rw [mem_keys_iff, mem_keys_iff, ha] at hkeys
        cases hb : lookup key bs with
        | none => exact .none
        | some b => simp [hb] at hkeys
    | some a =>
        obtain ⟨b, hb, hbeq⟩ := beqEntries_iff.1 h _ (mem_of_lookup ha)
        rw [hb]
        exact .some hbeq
  · intro h
    have hkeys : (as.map Prod.fst).Perm (bs.map Prod.fst) :=
      (List.perm_ext_iff_of_nodup has hbs).2 fun key => by
        rw [mem_keys_iff, mem_keys_iff, isSome_eq_of_rel (h key)]
    refine ⟨by simpa using hkeys.length_eq, beqEntries_iff.2 fun entry hentry => ?_⟩
    have hrel := h entry.1
    rw [lookup_of_mem has hentry] at hrel
    generalize lookup entry.1 bs = found at hrel ⊢
    cases hrel with
    | some hbeq => exact ⟨_, rfl, hbeq⟩

end

section

variable {x y z : Literal}

theorem beq_refl (h : x.UniqueKeys) : x.beq x = true := by
  induction x using inductionOnMembers with
  | null => rfl
  | bool b => exact beq_self_eq_true b
  | number a => exact beq_number_iff.2 ⟨rfl, fun _ => rfl⟩
  | string s => exact beq_self_eq_true s
  | date t => exact beq_self_eq_true t
  | regex r => exact beq_self_eq_true r
  | binary bytes => exact beq_self_eq_true bytes
  | sequence items ih =>
      rw [UniqueKeys, uniqueKeysItems_iff] at h
      exact beqItems_iff.2 (List.forall₂_same.2 fun item hitem => ih item hitem (h item hitem))
  | mapping entries ih =>
      obtain ⟨hnodup, hvalues⟩ := h
      rw [uniqueKeysEntries_iff] at hvalues
      rw [beq, beq_self_eq_true, Bool.true_and, beqEntries_iff]
      exact fun entry hentry =>
        ⟨entry.2, lookup_of_mem hnodup hentry, ih entry hentry (hvalues entry hentry)⟩

theorem beq_symm (hx : x.UniqueKeys) (h : x.beq y = true) : y.beq x = true := by
  induction x using inductionOnMembers generalizing y with
  | number a =>
      cases y with
      | number b =>
          rw [beq_number_iff] at h ⊢
          exact ⟨h.1.symm, fun hb => (h.2 (h.1.trans hb)).symm⟩
      | _ => cases h
  | sequence xs ih =>
      cases y with
      | sequence ys =>
          rw [UniqueKeys, uniqueKeysItems_iff] at hx
          rw [beq, beqItems_iff] at h ⊢
          exact (forall₂_imp_of_mem h fun x hmem _ hxy => ih x hmem (hx x hmem) hxy).flip
      | _ => cases h
  | mapping as ih =>
      cases y with
      | mapping bs =>
          obtain ⟨has, hvalues⟩ := hx
          rw [uniqueKeysEntries_iff] at hvalues
          have hbs : (bs.map Prod.fst).Nodup := by
            rw [beq, Bool.and_eq_true, beq_iff_eq] at h
            exact nodup_of_beqEntries has h.1 h.2
          rw [beq_mapping_iff_lookup has hbs] at h
          rw [beq_mapping_iff_lookup hbs has]
          intro key
          have hrel := h key
          generalize ha : lookup key as = a, lookup key bs = b at hrel ⊢
          cases hrel with
          | none => exact .none
          | some hab =>
              have hmem := mem_of_lookup ha
              exact .some (ih _ hmem (hvalues _ hmem) hab)
      | _ => cases h
  | _ =>
      obtain rfl := eq_of_beq_scalar h (by simp) (by simp) (by simp)
      exact h

theorem beqItems_trans {xs ys zs : List Literal}
    (h : ∀ x ∈ xs, ∀ {y z}, x.beq y = true → y.beq z = true → x.beq z = true)
    (hxy : beqItems xs ys = true) (hyz : beqItems ys zs = true) : beqItems xs zs = true := by
  rw [beqItems_iff] at hxy hyz ⊢
  induction hxy generalizing zs with
  | nil => exact hyz
  | cons hbeq _ ih =>
      cases hyz with
      | cons hbeq' hmore =>
          rw [List.forall_mem_cons] at h
          exact .cons (h.1 hbeq hbeq') (ih h.2 hmore)

theorem beqEntries_trans {as bs cs : List (String × Literal)}
    (h : ∀ entry ∈ as, ∀ {y z}, entry.2.beq y = true → y.beq z = true → entry.2.beq z = true)
    (hab : beqEntries as bs = true) (hbc : beqEntries bs cs = true) : beqEntries as cs = true := by
  rw [beqEntries_iff] at hab hbc ⊢
  intro entry hentry
  obtain ⟨b, hb, hbeq⟩ := hab entry hentry
  obtain ⟨c, hc, hbeq'⟩ := hbc _ (mem_of_lookup hb)
  exact ⟨c, hc, h entry hentry hbeq hbeq'⟩

theorem beq_trans (hxy : x.beq y = true) (hyz : y.beq z = true) : x.beq z = true := by
  induction x using inductionOnMembers generalizing y z with
  | number a =>
      cases y with
      | number b =>
          cases z with
          | number c =>
              rw [beq_number_iff] at hxy hyz ⊢
              exact ⟨hxy.1.trans hyz.1, fun ha => (hxy.2 ha).trans (hyz.2 (hxy.1 ▸ ha))⟩
          | _ => cases hyz
      | _ => cases hxy
  | sequence xs ih =>
      cases y with
      | sequence ys =>
          cases z with
          | sequence zs => exact beqItems_trans (fun x hx => ih x hx) hxy hyz
          | _ => cases hyz
      | _ => cases hxy
  | mapping as ih =>
      cases y with
      | mapping bs =>
          cases z with
          | mapping cs =>
              rw [beq, Bool.and_eq_true, beq_iff_eq] at hxy hyz ⊢
              exact ⟨hxy.1.trans hyz.1,
                beqEntries_trans (fun entry hentry => ih entry hentry) hxy.2 hyz.2⟩
          | _ => cases hyz
      | _ => cases hxy
  | _ =>
      obtain rfl := eq_of_beq_scalar hxy (by simp) (by simp) (by simp)
      exact hyz

theorem Akin.beq (h : Akin x y) : x.beq y = true := by
  induction x using inductionOnMembers generalizing y with
  | sequence items ih =>
      obtain ⟨items', rfl, hitems⟩ := akin_sequence_iff.1 h
      exact beqItems_iff.2 (forall₂_imp_of_mem hitems fun x hmem _ hxy => ih x hmem hxy)
  | mapping as ih =>
      obtain ⟨bs, zs, rfl, has, hperm, hentries⟩ := akin_mapping_iff.1 h
      have hbs : (bs.map Prod.fst).Nodup := by
        rwa [← (hperm.map Prod.fst).nodup_iff, ← keys_eq_of_akinEntries hentries]
      rw [beq_mapping_iff_lookup has hbs]
      intro key
      have hrel := h.lookup key
      generalize ha : Literal.lookup key as = a, Literal.lookup key bs = b at hrel ⊢
      cases hrel with
      | none => exact .none
      | some hab => exact .some (ih _ (mem_of_lookup ha) hab)
  | _ =>
      obtain ⟨hunique, rfl⟩ := h
      exact beq_refl hunique

end

end RuleBook.Literal
