import RuleBook.Literal.Basic
import Mathlib.Data.List.Induction
import Mathlib.Data.List.Nodup
import Mathlib.Data.List.Perm.Basic

/-!
# Lookups in entries

A lookup finds the first entry of a key.  Where keys are unique that is the only one, and
the order of entries plays no role.  Entries that are gathered one after the other have unique
keys: a key stands where it came first, with the value that came last.
-/

namespace RuleBook.Literal

section

variable {key : String} {value : Literal} {as bs : List (String × Literal)}

theorem mem_of_lookup (h : lookup key as = some value) : (key, value) ∈ as := by
  induction as with
  | nil => cases h
  | cons entry as ih =>
      obtain ⟨k, old⟩ := entry
      rw [lookup] at h
      split at h
      · next hk =>
        cases h
        simp [hk]
      · exact List.mem_cons_of_mem _ (ih h)

theorem lookup_of_mem (hnodup : (as.map Prod.fst).Nodup) (h : (key, value) ∈ as) :
    lookup key as = some value := by
  induction as with
  | nil => cases h
  | cons entry as ih =>
      obtain ⟨k, old⟩ := entry
      rw [List.map_cons, List.nodup_cons] at hnodup
      rw [lookup]
      rcases List.mem_cons.1 h with h | h
      · cases h
        rw [if_pos rfl]
      · rw [if_neg, ih hnodup.2 h]
        rintro rfl
        exact hnodup.1 (List.mem_map.2 ⟨_, h, rfl⟩)

theorem lookup_eq_none_iff : lookup key as = none ↔ ∀ entry ∈ as, entry.1 ≠ key := by
  induction as with
  | nil => simp [lookup]
  | cons entry as ih =>
      obtain ⟨k, old⟩ := entry
      by_cases hk : k = key <;> simp [lookup, hk, ih]

theorem lookup_eq_some_iff : lookup key as = some value ↔
    ∃ before after, as = before ++ (key, value) :: after ∧ key ∉ before.map Prod.fst := by
  constructor
  · intro h
    induction as with
    | nil => cases h
    | cons entry as ih =>
        obtain ⟨k, old⟩ := entry
        rw [lookup] at h
        split at h
        · next hk =>
          cases h
          exact ⟨[], as, by rw [hk]; rfl, List.not_mem_nil⟩
        · next hk =>
          obtain ⟨before, after, rfl, hbefore⟩ := ih h
          exact ⟨(k, old) :: before, after, rfl, by simpa [Ne.symm hk] using hbefore⟩
  · rintro ⟨before, after, rfl, hbefore⟩
    induction before with
    | nil => rw [List.nil_append, lookup, if_pos rfl]
    | cons entry before ih =>
        rw [List.map_cons, List.mem_cons, not_or] at hbefore
        rw [List.cons_append, lookup, if_neg (Ne.symm hbefore.1), ih hbefore.2]

theorem lookup_of_notMem (h : key ∉ as.map Prod.fst) : lookup key as = none :=
  lookup_eq_none_iff.2 fun entry hentry heq => h (List.mem_map.2 ⟨entry, hentry, heq⟩)

theorem mem_keys_iff : key ∈ as.map Prod.fst ↔ (lookup key as).isSome = true := by
  rw [← not_iff_not, Bool.not_eq_true, Option.isSome_eq_false_iff, Option.isNone_iff_eq_none,
    lookup_eq_none_iff, List.mem_map]
  exact ⟨fun h entry hentry heq => h ⟨entry, hentry, heq⟩,
    fun h ⟨entry, hentry, heq⟩ => h entry hentry heq⟩

theorem lookup_of_perm (hnodup : (as.map Prod.fst).Nodup) (hperm : as.Perm bs) (key : String) :
    lookup key as = lookup key bs := by
  have hnodup' : (bs.map Prod.fst).Nodup := (hperm.map Prod.fst).nodup_iff.1 hnodup
  refine Option.ext fun value => ?_
  constructor
  · exact fun h => lookup_of_mem hnodup' (hperm.mem_iff.1 (mem_of_lookup h))
  · exact fun h => lookup_of_mem hnodup (hperm.mem_iff.2 (mem_of_lookup h))

end

section

variable {key other : String} {value : Literal} {entries : List (String × Literal)}

theorem lookup_insertEntry_self : lookup key (insertEntry key value entries) = some value := by
  induction entries with
  | nil => simp [insertEntry, lookup]
  | cons entry entries ih =>
      obtain ⟨k, old⟩ := entry
      rw [insertEntry]
      split
      · next hk => rw [lookup, if_pos hk]
      · next hk => rw [lookup, if_neg hk, ih]

theorem lookup_insertEntry_ne (h : other ≠ key) :
    lookup other (insertEntry key value entries) = lookup other entries := by
  induction entries with
  | nil => simp [insertEntry, lookup, Ne.symm h]
  | cons entry entries ih =>
      obtain ⟨k, old⟩ := entry
      rw [insertEntry]
      split
      · next hk =>
        subst hk
        rw [lookup, lookup, if_neg (Ne.symm h), if_neg (Ne.symm h)]
      · rw [lookup, lookup, ih]

theorem insertEntry_of_notMem (h : key ∉ entries.map Prod.fst) :
    insertEntry key value entries = entries ++ [(key, value)] := by
  induction entries with
  | nil => rfl
  | cons entry entries ih =>
      simp only [List.map_cons, List.mem_cons, not_or] at h
      rw [insertEntry, if_neg (Ne.symm h.1), ih h.2]
      rfl

theorem map_fst_insertEntry_of_mem (h : key ∈ entries.map Prod.fst) :
    (insertEntry key value entries).map Prod.fst = entries.map Prod.fst := by
  induction entries with
  | nil => cases h
  | cons entry entries ih =>
      obtain ⟨k, old⟩ := entry
      rw [insertEntry]
      split
      · rfl
      · next hk =>
        rw [List.map_cons, List.map_cons, ih ((List.mem_cons.1 h).resolve_left (Ne.symm hk))]

end

/-- Of each key one entry: it stands where the key came first, and its value is the one that
came last with the key. -/
structure Gathered (entries kept : List (String × Literal)) : Prop where
  keys : kept.map Prod.fst = (entries.map Prod.fst).eraseDups
  values : ∀ key, lookup key kept = lookup key entries.reverse

section

variable {key : String} {value : Literal} {entries kept as bs : List (String × Literal)}

theorem ofEntries_concat (h : ofEntries entries = .mapping kept) :
    ofEntries (entries ++ [(key, value)]) = .mapping (insertEntry key value kept) := by
  rw [ofEntries, List.foldl_append]
  rw [ofEntries, Literal.mapping.injEq] at h
  rw [h]
  rfl

theorem ofEntries_of_nodup (h : (entries.map Prod.fst).Nodup) :
    ofEntries entries = .mapping entries := by
  induction entries using List.reverseRecOn with
  | nil => rfl
  | append_singleton entries entry ih =>
      rw [List.map_append, List.map_singleton, List.nodup_append] at h
      obtain ⟨hnodup, -, hdisjoint⟩ := h
      have hnew : entry.1 ∉ entries.map Prod.fst := fun hmem =>
        hdisjoint _ hmem _ List.mem_cons_self rfl
      rw [ofEntries_concat (ih hnodup), insertEntry_of_notMem hnew]

theorem Gathered.insertEntry (h : Gathered entries kept) (key : String) (value : Literal) :
    Gathered (entries ++ [(key, value)]) (insertEntry key value kept) := by
  have hmem : key ∈ kept.map Prod.fst ↔ key ∈ entries.map Prod.fst := by
    rw [h.keys, List.mem_eraseDups]
  constructor
  · rw [List.map_append, List.map_singleton, List.eraseDups_append, ← h.keys]
    by_cases hold : key ∈ entries.map Prod.fst
    · rw [map_fst_insertEntry_of_mem (hmem.2 hold)]
      simp [List.removeAll, hold]
    · rw [insertEntry_of_notMem (mt hmem.1 hold), List.map_append, List.map_singleton]
      simp [List.removeAll, hold, List.eraseDups_cons]
  · intro other
    rw [List.reverse_concat, lookup]
    split
    · next heq => rw [← heq, lookup_insertEntry_self]
    · next hne => rw [lookup_insertEntry_ne (Ne.symm hne), h.values]

theorem nodup_insertEntry (h : (kept.map Prod.fst).Nodup) :
    ((insertEntry key value kept).map Prod.fst).Nodup := by
  by_cases hold : key ∈ kept.map Prod.fst
  · rwa [map_fst_insertEntry_of_mem hold]
  · rw [insertEntry_of_notMem hold, List.map_append, List.map_singleton]
    simpa using h.concat hold

theorem exists_gathered (entries : List (String × Literal)) :
    ∃ kept, ofEntries entries = .mapping kept ∧ Gathered entries kept ∧
      (kept.map Prod.fst).Nodup := by
  induction entries using List.reverseRecOn with
  | nil => exact ⟨[], rfl, ⟨rfl, fun _ => rfl⟩, List.nodup_nil⟩
  | append_singleton entries entry ih =>
      obtain ⟨kept, hkept, hgathered, hnodup⟩ := ih
      exact ⟨_, ofEntries_concat hkept, hgathered.insertEntry _ _, nodup_insertEntry hnodup⟩

theorem eq_of_lookup (hkeys : as.map Prod.fst = bs.map Prod.fst)
    (hnodup : (as.map Prod.fst).Nodup) (h : ∀ key, lookup key as = lookup key bs) : as = bs := by
  induction as generalizing bs with
  | nil => exact (List.map_eq_nil_iff.1 hkeys.symm).symm
  | cons entry as ih =>
      obtain ⟨k, value⟩ := entry
      cases bs with
      | nil => cases hkeys
      | cons other bs =>
          obtain ⟨l, value'⟩ := other
          rw [List.map_cons, List.map_cons, List.cons.injEq] at hkeys
          rw [List.map_cons, List.nodup_cons] at hnodup
          obtain ⟨rfl, hkeys⟩ := hkeys
          have hvalue := h k
          rw [lookup, lookup, if_pos rfl, if_pos rfl, Option.some_inj] at hvalue
          subst hvalue
          -- The lookups of `k` say nothing about the rest, where it does not occur again.
          have hmore (key : String) : lookup key as = lookup key bs := by
            by_cases hk : k = key
            · subst hk
              rw [lookup_of_notMem hnodup.1, lookup_of_notMem (hkeys ▸ hnodup.1)]
            · simpa only [lookup, if_neg hk] using h key
          rw [ih hkeys hnodup.2 hmore]

/-- Entries that are gathered one after the other keep of each key its first place and its last
value. -/
theorem ofEntries_eq_iff : ofEntries entries = .mapping kept ↔ Gathered entries kept := by
  obtain ⟨found, hfound, hgathered, hnodup⟩ := exists_gathered entries
  rw [hfound, Literal.mapping.injEq]
  constructor
  · rintro rfl
    exact hgathered
  · intro h
    refine eq_of_lookup (hgathered.keys.trans h.keys.symm) hnodup fun key => ?_
    rw [hgathered.values, h.values]

theorem ofEntries_spec (entries : List (String × Literal)) :
    ∃ kept, ofEntries entries = .mapping kept ∧ (kept.map Prod.fst).Nodup ∧
      ∀ entry ∈ kept, entry ∈ entries := by
  obtain ⟨kept, hkept, hgathered, hnodup⟩ := exists_gathered entries
  refine ⟨kept, hkept, hnodup, fun entry hentry => ?_⟩
  have hfound := lookup_of_mem hnodup hentry
  rw [hgathered.values] at hfound
  exact List.mem_reverse.1 (mem_of_lookup hfound)

end

end RuleBook.Literal
