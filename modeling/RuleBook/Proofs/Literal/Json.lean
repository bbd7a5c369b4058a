import RuleBook.Proofs.Literal.Equality
import RuleBook.Proofs.Literal.UniqueKeys

/-!
# Literals that pass through JSON

A literal has one form in JSON that keeps the order of its entries and one with sorted
members.  Where keys are unique the two differ in the order of members alone, since an
insertion among sorted members never meets a member of the same key.  What is read back from
them is the literal with strings, arrays and nulls in the place of what JSON has no form for.
-/

namespace RuleBook

namespace Json

mutual

/-- The same but for the order of the members of objects: the values of an object may be
reordered in themselves, and its members among each other. -/
def Reordered : Json → Json → Prop
  | .array xs, b => ∃ ys, b = .array ys ∧ ReorderedItems xs ys
  | .object xs, b => ∃ ys zs, b = .object ys ∧ zs.Perm ys ∧ ReorderedMembers xs zs
  | a, b => a = b

def ReorderedItems : List Json → List Json → Prop
  | [], ys => ys = []
  | a :: xs, all => ∃ b ys, all = b :: ys ∧ a.Reordered b ∧ ReorderedItems xs ys

def ReorderedMembers : List (String × Json) → List (String × Json) → Prop
  | [], ys => ys = []
  | (key, a) :: xs, all =>
      ∃ b ys, all = (key, b) :: ys ∧ a.Reordered b ∧ ReorderedMembers xs ys

end

theorem insertMember_perm {key : String} {members : List (String × Json)} (value : Json)
    (h : key ∉ members.map Prod.fst) :
    (insertMember key value members).Perm ((key, value) :: members) := by
  induction members with
  | nil => exact .refl _
  | cons member members ih =>
      obtain ⟨k, old⟩ := member
      simp only [List.map_cons, List.mem_cons, not_or] at h
      rw [insertMember, if_neg h.1]
      split
      · exact .refl _
      · exact ((ih h.2).cons _).trans (.swap _ _ _)

end Json

namespace Literal

section

variable {items : List Literal} {entries as bs : List (String × Literal)} {f g : Literal → Literal}

theorem itemsToJson_eq_map : itemsToJson items = items.map toJson := by
  induction items with
  | nil => rfl
  | cons item items ih => rw [itemsToJson, ih, List.map_cons]

theorem entriesToJson_eq_map :
    entriesToJson entries = entries.map fun entry => (entry.1, entry.2.toJson) := by
  induction entries with
  | nil => rfl
  | cons entry entries ih => rw [entriesToJson, ih, List.map_cons]

theorem itemsToSortedJson_eq_map : itemsToSortedJson items = items.map toSortedJson := by
  induction items with
  | nil => rfl
  | cons item items ih => rw [itemsToSortedJson, ih, List.map_cons]

theorem ofJsonItems_eq_map {items : List Json} : ofJsonItems items = items.map ofJson := by
  induction items with
  | nil => rfl
  | cons item items ih => rw [ofJsonItems, ih, List.map_cons]

theorem ofJsonMembers_eq_map {members : List (String × Json)} :
    ofJsonMembers members = members.map fun member => (member.1, ofJson member.2) := by
  induction members with
  | nil => rfl
  | cons member members ih => rw [ofJsonMembers, ih, List.map_cons]

theorem map_fst_mapValues {α : Type} (f : Literal → α) (entries : List (String × Literal)) :
    (entries.map fun entry => (entry.1, f entry.2)).map Prod.fst = entries.map Prod.fst := by
  rw [List.map_map]
  rfl

theorem insertEntries_perm {sorted : List (String × Json)}
    (hnodup : (entries.map Prod.fst).Nodup)
    (hdisjoint : ∀ key ∈ entries.map Prod.fst, key ∉ sorted.map Prod.fst) :
    (insertEntries entries sorted).Perm
      ((entries.map fun entry => (entry.1, entry.2.toSortedJson)) ++ sorted) := by
  induction entries generalizing sorted with
  | nil => exact .refl _
  | cons entry entries ih =>
      obtain ⟨key, value⟩ := entry
      rw [List.map_cons, List.nodup_cons] at hnodup
      rw [List.map_cons, List.forall_mem_cons] at hdisjoint
      have hinsert := Json.insertMember_perm value.toSortedJson hdisjoint.1
      have hmore : ∀ k ∈ entries.map Prod.fst,
          k ∉ (Json.insertMember key value.toSortedJson sorted).map Prod.fst := by
        intro k hk hmem
        rcases List.mem_cons.1 ((hinsert.map Prod.fst).mem_iff.1 hmem) with rfl | hmem
        · exact hnodup.1 hk
        · exact hdisjoint.2 k hk hmem
      rw [insertEntries]
      exact ((ih hnodup.2 hmore).trans (hinsert.append_left _)).trans List.perm_middle

theorem exists_toSortedJson_mapping (hnodup : (entries.map Prod.fst).Nodup) :
    ∃ members, (mapping entries).toSortedJson = .object members ∧
      members.Perm (entries.map fun entry => (entry.1, entry.2.toSortedJson)) := by
  have hperm := @insertEntries_perm entries [] hnodup fun _ _ => List.not_mem_nil
  rw [List.append_nil] at hperm
  exact ⟨_, rfl, hperm⟩

theorem reorderedItems_map {α : Type} {xs : List α} {f g : α → Json}
    (h : ∀ x ∈ xs, (f x).Reordered (g x)) :
    Json.ReorderedItems (xs.map f) (xs.map g) := by
  induction xs with
  | nil => rfl
  | cons x xs ih =>
      rw [List.forall_mem_cons] at h
      exact ⟨_, _, rfl, h.1, ih h.2⟩

theorem reorderedMembers_map {f g : Literal → Json}
    (h : ∀ entry ∈ entries, (f entry.2).Reordered (g entry.2)) :
    Json.ReorderedMembers (entries.map fun entry => (entry.1, f entry.2))
      (entries.map fun entry => (entry.1, g entry.2)) := by
  induction entries with
  | nil => rfl
  | cons entry entries ih =>
      rw [List.forall_mem_cons] at h
      exact ⟨_, _, rfl, h.1, ih h.2⟩

theorem beqItems_map_iff :
    beqItems (items.map f) (items.map g) = true ↔ ∀ item ∈ items, (f item).beq (g item) = true := by
  induction items with
  | nil => simp [beqItems]
  | cons item items ih =>
      rw [List.map_cons, List.map_cons, beqItems, Bool.and_eq_true, ih, List.forall_mem_cons]

theorem beq_mapping_iff (hnodup : (entries.map Prod.fst).Nodup)
    (has : as.Perm (entries.map fun entry => (entry.1, f entry.2)))
    (hbs : bs.Perm (entries.map fun entry => (entry.1, g entry.2))) :
    (mapping as).beq (mapping bs) = true ↔
      ∀ entry ∈ entries, (f entry.2).beq (g entry.2) = true := by
  have hlength : as.length = bs.length := by
    rw [has.length_eq, hbs.length_eq, List.length_map, List.length_map]
  have hnodup' : (bs.map Prod.fst).Nodup := by
    rwa [(hbs.map Prod.fst).nodup_iff, map_fst_mapValues]
  have hlookup (entry) (hentry : entry ∈ entries) : lookup entry.1 bs = some (g entry.2) :=
    lookup_of_mem hnodup' (hbs.mem_iff.2 (List.mem_map.2 ⟨entry, hentry, rfl⟩))
  rw [beq, beq_iff_eq.2 hlength, Bool.true_and, beqEntries_iff]
  constructor
  · intro h entry hentry
    obtain ⟨b, hb, hbeq⟩ := h _ (has.mem_iff.2 (List.mem_map.2 ⟨entry, hentry, rfl⟩))
    rw [hlookup entry hentry, Option.some_inj] at hb
    exact hb ▸ hbeq
  · intro h pair hpair
    obtain ⟨entry, hentry, rfl⟩ := List.mem_map.1 (has.mem_iff.1 hpair)
    exact ⟨g entry.2, hlookup entry hentry, h entry hentry⟩

end

/-- What a literal is read back as from its sorted form. -/
def throughJson (x : Literal) : Literal := ofJson x.toSortedJson

section

variable {items : List Literal} {entries : List (String × Literal)}

theorem throughJson_sequence :
    (sequence items).throughJson = sequence (items.map throughJson) := by
  rw [throughJson, toSortedJson, ofJson, itemsToSortedJson_eq_map, ofJsonItems_eq_map,
    List.map_map]
  rfl

theorem ofJson_object {members : List (String × Json)} (h : (members.map Prod.fst).Nodup) :
    ofJson (.object members) =
      mapping (members.map fun member => (member.1, ofJson member.2)) := by
  rw [ofJson, ofJsonMembers_eq_map, ofEntries_of_nodup]
  rw [List.map_map]
  exact h

theorem exists_throughJson_mapping (hnodup : (entries.map Prod.fst).Nodup) :
    ∃ as, (mapping entries).throughJson = mapping as ∧
      as.Perm (entries.map fun entry => (entry.1, entry.2.throughJson)) := by
  obtain ⟨members, hmembers, hperm⟩ := exists_toSortedJson_mapping hnodup
  have hkeys : (members.map Prod.fst).Nodup := by
    rwa [(hperm.map Prod.fst).nodup_iff, map_fst_mapValues]
  refine ⟨_, by rw [throughJson, hmembers, ofJson_object hkeys], ?_⟩
  have hvalues := hperm.map fun member => (member.1, ofJson member.2)
  rwa [List.map_map] at hvalues

end

mutual

/-- No date, regular expression, binary value or number that is not finite, at any depth. -/
def HasJsonForm : Literal → Prop
  | .number x => Number.isFinite x = true
  | .date _ => False
  | .regex _ => False
  | .binary _ => False
  | .sequence items => HasJsonFormItems items
  | .mapping entries => HasJsonFormEntries entries
  | _ => True

def HasJsonFormItems : List Literal → Prop
  | [] => True
  | item :: items => item.HasJsonForm ∧ HasJsonFormItems items

def HasJsonFormEntries : List (String × Literal) → Prop
  | [] => True
  | (_, value) :: entries => value.HasJsonForm ∧ HasJsonFormEntries entries

end

section

variable {items : List Literal} {entries : List (String × Literal)} {x : Literal}

theorem hasJsonFormItems_iff : HasJsonFormItems items ↔ ∀ item ∈ items, item.HasJsonForm := by
  induction items with
  | nil => simp [HasJsonFormItems]
  | cons item items ih => simp [HasJsonFormItems, ih]

theorem hasJsonFormEntries_iff :
    HasJsonFormEntries entries ↔ ∀ entry ∈ entries, entry.2.HasJsonForm := by
  induction entries with
  | nil => simp [HasJsonFormEntries]
  | cons entry entries ih => simp [HasJsonFormEntries, ih]

theorem isFinite_byte : ∀ n < 256, Number.isFinite (Number.ofInt (n : Nat)) = true := by
  decide +kernel

theorem reordered_toSortedJson (h : x.UniqueKeys) : x.toJson.Reordered x.toSortedJson := by
  induction x using inductionOnMembers with
  | number x =>
      rw [toJson, toSortedJson, numberToJson]
      split <;> rfl
  | binary bytes => exact ⟨_, rfl, reorderedItems_map fun _ _ => rfl⟩
  | sequence items ih =>
      rw [UniqueKeys, uniqueKeysItems_iff] at h
      rw [toJson, toSortedJson, itemsToJson_eq_map, itemsToSortedJson_eq_map]
      exact ⟨_, rfl, reorderedItems_map fun item hitem => ih item hitem (h item hitem)⟩
  | mapping entries ih =>
      rw [UniqueKeys, uniqueKeysEntries_iff] at h
      obtain ⟨members, hmembers, hperm⟩ := exists_toSortedJson_mapping h.1
      rw [toJson, entriesToJson_eq_map, hmembers]
      exact ⟨_, _, rfl, hperm.symm,
        reorderedMembers_map fun entry hentry => ih entry hentry (h.2 entry hentry)⟩
  | _ => rfl

theorem hasJsonForm_throughJson (h : x.UniqueKeys) : x.throughJson.HasJsonForm := by
  induction x using inductionOnMembers with
  | number x =>
      rw [throughJson, toSortedJson, numberToJson]
      split
      · next hfinite => exact hfinite
      · exact trivial
  | binary bytes =>
      rw [throughJson, toSortedJson, binaryToJson, ofJson, ofJsonItems_eq_map, List.map_map,
        HasJsonForm, hasJsonFormItems_iff, List.forall_mem_map]
      exact fun byte _ => isFinite_byte _ byte.toNat_lt
  | sequence items ih =>
      rw [UniqueKeys, uniqueKeysItems_iff] at h
      rw [throughJson_sequence, HasJsonForm, hasJsonFormItems_iff, List.forall_mem_map]
      exact fun item hitem => ih item hitem (h item hitem)
  | mapping entries ih =>
      rw [UniqueKeys, uniqueKeysEntries_iff] at h
      obtain ⟨as, has, hperm⟩ := exists_throughJson_mapping h.1
      rw [has, HasJsonForm, hasJsonFormEntries_iff]
      intro pair hpair
      obtain ⟨entry, hentry, rfl⟩ := List.mem_map.1 (hperm.mem_iff.1 hpair)
      exact ih entry hentry (h.2 entry hentry)
  | _ => exact trivial

theorem throughJson_beq_iff (h : x.UniqueKeys) :
    x.throughJson.beq x = true ↔ x.HasJsonForm := by
  induction x using inductionOnMembers with
  | null => exact ⟨fun _ => trivial, fun _ => rfl⟩
  | bool b => exact ⟨fun _ => trivial, fun _ => beq_self_eq_true b⟩
  | number x =>
      rw [throughJson, toSortedJson, numberToJson, HasJsonForm]
      split
      · next hfinite => exact ⟨fun _ => hfinite, fun _ => beq_self trivial⟩
      · next hfinite => exact ⟨nofun, fun h => absurd h hfinite⟩
  | string s => exact ⟨fun _ => trivial, fun _ => beq_self_eq_true s⟩
  | date t => exact ⟨nofun, nofun⟩
  | regex r => exact ⟨nofun, nofun⟩
  | binary bytes => exact ⟨nofun, nofun⟩
  | sequence items ih =>
      rw [UniqueKeys, uniqueKeysItems_iff] at h
      rw [throughJson_sequence, HasJsonForm, hasJsonFormItems_iff, beq]
      have hitems := @beqItems_map_iff items throughJson id
      rw [List.map_id] at hitems
      rw [hitems]
      exact forall₂_congr fun item hitem => ih item hitem (h item hitem)
  | mapping entries ih =>
      rw [UniqueKeys, uniqueKeysEntries_iff] at h
      obtain ⟨as, has, hperm⟩ := exists_throughJson_mapping h.1
      have hself : entries.Perm (entries.map fun entry => (entry.1, id entry.2)) := by
        simp
      rw [has, beq_mapping_iff h.1 hperm hself, HasJsonForm, hasJsonFormEntries_iff]
      exact forall₂_congr fun entry hentry => ih entry hentry (h.2 entry hentry)

theorem ofJson_toJson_beq (h : x.UniqueKeys) : (ofJson x.toJson).beq x.throughJson = true := by
  induction x using inductionOnMembers with
  | sequence items ih =>
      rw [UniqueKeys, uniqueKeysItems_iff] at h
      rw [throughJson_sequence, toJson, itemsToJson_eq_map, ofJson, ofJsonItems_eq_map,
        List.map_map, beq, beqItems_map_iff]
      exact fun item hitem => ih item hitem (h item hitem)
  | mapping entries ih =>
      rw [UniqueKeys, uniqueKeysEntries_iff] at h
      obtain ⟨as, has, hperm⟩ := exists_throughJson_mapping h.1
      have hkeys : ((entriesToJson entries).map Prod.fst).Nodup := by
        rw [entriesToJson_eq_map, map_fst_mapValues]
        exact h.1
      have hvalues := @beq_mapping_iff entries _ as (fun value => ofJson value.toJson)
        throughJson h.1 (.refl _) hperm
      rw [toJson, ofJson_object hkeys, entriesToJson_eq_map, List.map_map, has]
      exact hvalues.2 fun entry hentry => ih entry hentry (h.2 entry hentry)
  | _ => exact beq_self (regular_ofJson _)

/-- The two forms agree but for the order of members.  What is read back equals the literal
exactly when JSON has a form for all of it, and a second passage changes nothing. -/
theorem json_passage (h : x.UniqueKeys) :
    x.toJson.Reordered x.toSortedJson ∧
      ((ofJson x.toSortedJson == x) = true ↔ x.HasJsonForm) ∧
      (ofJson (ofJson x.toSortedJson).toSortedJson == ofJson x.toSortedJson) = true :=
  ⟨reordered_toSortedJson h, throughJson_beq_iff h,
    (throughJson_beq_iff (uniqueKeys_ofJson x.toSortedJson)).2 (hasJsonForm_throughJson h)⟩

/-- A mapping that comes back with its entries sorted, and one with a binary value and NaN
below it. -/
theorem json_passage_nested :
    let kept : Literal := .mapping [("b", .bool true), ("a", .sequence [.null, .string "s"])]
    let changed : Literal := .mapping [("b", kept), ("a", .sequence [.binary [1], nan])]
    (kept.UniqueKeys ∧ (ofJson kept.toSortedJson == kept) = true) ∧
      changed.UniqueKeys ∧ changed.toJson.Reordered changed.toSortedJson ∧
        (ofJson changed.toSortedJson == changed) = false ∧
        (ofJson (ofJson changed.toSortedJson).toSortedJson == ofJson changed.toSortedJson) =
          true := by
  intro kept changed
  have hkept : kept.UniqueKeys := by simp [kept, UniqueKeys, UniqueKeysEntries, UniqueKeysItems]
  have hchanged : changed.UniqueKeys :=
    ⟨by simp, hkept, ⟨trivial, trivial, trivial⟩, trivial⟩
  have hform : kept.HasJsonForm := ⟨trivial, ⟨trivial, trivial, trivial⟩, trivial⟩
  have hloss : ¬changed.HasJsonForm := fun h => h.2.1.1
  obtain ⟨hreordered, hback, hagain⟩ := json_passage hchanged
  exact ⟨⟨hkept, (json_passage hkept).2.1.2 hform⟩, hchanged, hreordered,
    Bool.eq_false_iff.2 (mt hback.1 hloss), hagain⟩

end

end Literal

end RuleBook
