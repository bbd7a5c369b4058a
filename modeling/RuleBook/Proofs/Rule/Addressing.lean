import RuleBook.Proofs.Literal.Sameness
import RuleBook.Proofs.Literal.UniqueKeys
import RuleBook.Proofs.Pointer
import RuleBook.Proofs.Rule.FieldHead

/-!
# Pointers and field paths to one value

Where a pointer leads, the field path of the same segments selects that value and nothing else.
So a rule that compares a field with what a pointer to it finds compares a value with itself.
-/

namespace RuleBook

namespace Literal

mutual

/-- The items of every sequence are counted within 64 bits, as those of any sequence in memory
are. -/
def IsIndexable : Literal → Prop
  | .sequence items => items.length ≤ FieldPath.maxIndex ∧ ItemsAreIndexable items
  | .mapping entries => EntriesAreIndexable entries
  | _ => True

def ItemsAreIndexable : List Literal → Prop
  | [] => True
  | item :: items => item.IsIndexable ∧ ItemsAreIndexable items

def EntriesAreIndexable : List (String × Literal) → Prop
  | [] => True
  | (_, value) :: entries => value.IsIndexable ∧ EntriesAreIndexable entries

end

theorem itemsAreIndexable_iff {items : List Literal} :
    ItemsAreIndexable items ↔ ∀ item ∈ items, item.IsIndexable := by
  induction items with
  | nil => simp [ItemsAreIndexable]
  | cons item items ih => simp [ItemsAreIndexable, ih]

theorem entriesAreIndexable_iff {entries : List (String × Literal)} :
    EntriesAreIndexable entries ↔ ∀ entry ∈ entries, entry.2.IsIndexable := by
  induction entries with
  | nil => simp [EntriesAreIndexable]
  | cons entry entries ih => simp [EntriesAreIndexable, ih]

theorem inherited_isIndexable : Reference.Inherited IsIndexable where
  item h := itemsAreIndexable_iff.1 h.2
  entry h := entriesAreIndexable_iff.1 h

end Literal

open Literal Pointer

namespace FieldPath

variable {document next value : Literal} {segment : String} {segments : List String}

theorem index?_toString {n : Nat} (h : n ≤ maxIndex) : index? (toString n).toList = some n := by
  have hwhole := Decimal.isWhole_toDigits n
  have hdigits : ¬(Nat.toDigits 10 n = [] ∨ !(Nat.toDigits 10 n).all Char.isDigit) := by
    simpa [hwhole.ne_nil] using hwhole.all
  rw [Nat.toString_eq_ofList_toDigits, String.toList_ofList, index?, if_neg hdigits,
    Nat.ofDigitChars_ten_toDigits]
  · exact if_pos h
  · intro digits hsign
    exact absurd (hwhole.all '+' (by simp [hsign])) (by decide)

theorem step_of_enters (hindexable : document.IsIndexable) (h : Enters document segment next) :
    step segment document = [next] := by
  cases h with
  | key hfirst =>
      rw [step, lookup_eq_some_iff.2 ⟨_, _, rfl, hfirst⟩]
      rfl
  | @index before after =>
      have hlength : before.length ≤ maxIndex := by
        have h := hindexable.1
        rw [List.length_append] at h
        omega
      rw [step, index?_toString hlength]
      simp

theorem select_of_leads (hindexable : document.IsIndexable) (h : Leads document segments value) :
    select segments [document] = [value] := by
  induction h with
  | nil => rfl
  | cons hnext _ ih =>
      have hmore := inherited_isIndexable.step? hindexable (step?_eq_some_iff.2 hnext)
      rw [select, List.flatMap_singleton, step_of_enters hindexable hnext, ih hmore]

end FieldPath

namespace Predicate

theorem pathOfKey_intercalate {segments : List String} (hne : segments ≠ [])
    (hdots : ∀ segment ∈ segments, '.' ∉ segment.toList) :
    pathOfKey (".".intercalate segments) = segments := by
  have hsplit : Text.splitOn ['.'] (Text.join ['.'] (segments.map String.toList)) =
      segments.map String.toList :=
    Text.splitOn_join_singleton (by simpa using hne) (List.forall_mem_map.2 hdots)
  rw [pathOfKey, String.toList_intercalate, ← Text.join_eq_intercalate]
  refine (congrArg (List.map String.ofList) hsplit).trans ?_
  simp

theorem compile_eq (x : Literal) : compile (operatorHead .eq x) = .ok (equalTo x) :=
  compile_operatorHead _ _

theorem equalOrMatch_eq_false {x : Literal} (hnan : x.holdsNaN = true) (value : Literal) :
    equalOrMatch x value = false := by
  have hsame : x.same value = false := by
    rw [Bool.eq_false_iff]
    intro h
    rw [holdsNaN_of_same h] at hnan
    cases hnan
  cases x with
  | regex _ => cases hnan
  | _ => exact hsame

theorem equalOrMatch_self {x : Literal} (hkeys : x.UniqueKeys) (hnan : x.holdsNaN = false) :
    equalOrMatch x x = true := by
  have hsame := same_self hkeys hnan
  cases x <;> exact hsame

theorem equalTo_holds_self {x : Literal} (hkeys : x.UniqueKeys) (now : Instant) :
    (equalTo x).holds now [x] = !x.holdsNaN := by
  rw [equalTo_holds, if_neg (by simp), List.flatMap_singleton]
  cases hnan : x.holdsNaN with
  | true => exact List.any_eq_false.2 fun value _ => by simp [equalOrMatch_eq_false hnan]
  | false =>
      have hself : x ∈ Test.scope x := by
        cases x <;> exact List.mem_cons_self
      exact List.any_eq_true.2 ⟨x, hself, equalOrMatch_self hkeys hnan⟩

end Predicate

namespace Reference

def marker (pointer : String) : Literal := .mapping [(markerKey, .string pointer)]

theorem occursIn_marker (pointer : String) : occursIn (marker pointer) = true := rfl

theorem unknownKeys_marker (pointer : String) : Predicate.unknownKeys (marker pointer) = [] := rfl

theorem dereference_marker {record value : Literal} {pointer : String}
    (h : record.pointer pointer = .ok value) : dereference (marker pointer) record = value := by
  have htarget : target record (.string pointer) = value := by
    rw [target, pointer_eq_ok_iff.1 h, Option.getD_some]
  exact (substitute_marker rfl).trans htarget

end Reference

namespace Rule

open Predicate Reference

/-- A pointer and the field path of the same segments lead to the same value.  A rule that
compares the two can be made, and it matches unless there is NaN in that value. -/
theorem select_of_pointer {record value : Literal} {segments : List String}
    (hne : segments ≠ []) (hdots : ∀ segment ∈ segments, '.' ∉ segment.toList)
    (hindexable : record.IsIndexable)
    (hvalue : record.pointer (ofTokens segments) = .ok value) :
    let path := ".".intercalate segments
    let head := fieldHead path .eq (marker (ofTokens segments))
    FieldPath.select (pathOfKey path) [record] = [value] ∧
      (Operator.isOperatorKey path = false → record.UniqueKeys →
        (∀ tail? name, (ofParts head tail? name).isOk = true) ∧
        ∀ rule : Rule, rule.head = head → ∀ clock,
          rule.matchesRecord clock record = .ok !value.holdsNaN) := by
  intro path head
  have hleads : Leads record segments value := resolve?_ofTokens.1 (pointer_eq_ok_iff.1 hvalue)
  have hselect : FieldPath.select (pathOfKey path) [record] = [value] := by
    rw [pathOfKey_intercalate hne hdots, FieldPath.select_of_leads hindexable hleads]
  refine ⟨hselect, fun hkey hkeys => ⟨fun tail? name => ?_, fun rule hrule clock => ?_⟩⟩
  · rw [isOk_ofParts_fieldHead hkey, occursIn_marker, if_pos rfl, unknownKeys_marker]
    rfl
  · have hvalueKeys : value.UniqueKeys :=
      inherited_uniqueKeys.descend? hkeys (descend?_eq_some_iff.2 hleads)
    rw [matchesRecord_of_fieldHead hkey hrule, dereference_marker hvalue,
      matchesRecord_fieldHead hkey (compile_eq value), hselect, equalTo_holds_self hvalueKeys]

/-- A mapping in a sequence, under a key with a slash, with NaN in it and without. -/
theorem select_of_pointer_nested :
    let clear : Literal := .mapping [("b", .null), ("c", .sequence [.bool true])]
    let clouded : Literal := .mapping [("b", .sequence [.nan])]
    let record : Literal := .mapping [("a/d", .sequence [clear, clouded])]
    ofTokens ["a/d", "0"] = "/a~1d/0" ∧ Operator.isOperatorKey "a/d.0" = false ∧
      record.IsIndexable ∧ record.UniqueKeys ∧
      FieldPath.select (pathOfKey "a/d.0") [record] = [clear] ∧
      FieldPath.select (pathOfKey "a/d.1") [record] = [clouded] ∧
      ∃ rule rule',
        ofParts (fieldHead "a/d.0" .eq (marker "/a~1d/0")) none "" = .ok rule ∧
        ofParts (fieldHead "a/d.1" .eq (marker "/a~1d/1")) none "" = .ok rule' ∧
        ∀ clock, rule.matchesRecord clock record = .ok true ∧
          rule'.matchesRecord clock record = .ok false := by
  intro clear clouded record
  have hindexable : record.IsIndexable := by
    refine ⟨⟨by decide, ?_⟩, trivial⟩
    exact ⟨⟨trivial, ⟨by decide, trivial, trivial⟩, trivial⟩,
      ⟨⟨by decide, trivial, trivial⟩, trivial⟩, trivial⟩
  have hkeys : record.UniqueKeys := by
    simp [record, clear, clouded, UniqueKeys, UniqueKeysItems, UniqueKeysEntries, Literal.nan]
  have hdots (i : String) (hi : '.' ∉ i.toList) :
      ∀ segment ∈ ["a/d", i], '.' ∉ segment.toList := by
    simpa using hi
  obtain ⟨hclear, hrules⟩ := select_of_pointer (List.cons_ne_nil _ _) (hdots "0" (by decide))
    hindexable (show record.pointer (ofTokens ["a/d", "0"]) = .ok clear from rfl)
  obtain ⟨hclouded, hrules'⟩ := select_of_pointer (List.cons_ne_nil _ _) (hdots "1" (by decide))
    hindexable (show record.pointer (ofTokens ["a/d", "1"]) = .ok clouded from rfl)
  obtain ⟨-, hmatch⟩ := hrules rfl hkeys
  obtain ⟨-, hmatch'⟩ := hrules' rfl hkeys
  obtain ⟨rule, hrule, hhead, -⟩ := ofParts_eq_ok
    (show Plan.ofHead (fieldHead "a/d.0" .eq (marker "/a~1d/0")) = .ok .perRecord from rfl) none ""
  obtain ⟨rule', hrule', hhead', -⟩ := ofParts_eq_ok
    (show Plan.ofHead (fieldHead "a/d.1" .eq (marker "/a~1d/1")) = .ok .perRecord from rfl) none ""
  exact ⟨rfl, rfl, hindexable, hkeys, hclear, hclouded, rule, rule', hrule, hrule',
    fun clock => ⟨hmatch rule hhead clock, hmatch' rule' hhead' clock⟩⟩

end Rule

end RuleBook
