import RuleBook.Proofs.Matching.Operators
import RuleBook.Proofs.Rule.Plan

/-!
# Unknown operators in rules

An operator that does not exist is found when a rule is built and not at a match, as long as
the records bring in no operators of their own.  The check made for heads with markers looks
into data too, where compiling reads keys with a dollar as they are.
-/

namespace RuleBook.Rule

open Literal Reference

theorem ofParts_eq_error {head : Literal} {e : Error} (h : Plan.ofHead head = .error e)
    (tail? : Option Literal) (name : String) : ofParts head tail? name = .error e := by
  unfold ofParts
  split
  · next heq =>
    rw [h] at heq
    cases heq
  · next heq => exact congrArg Except.error (Except.error.inj (heq.symm.trans h))

theorem ofHead_of_occursIn {head : Literal} (h : occursIn head = true) :
    Plan.ofHead head =
      Predicate.refuseFirst (Predicate.unknownKeys head) >>= fun _ => .ok .perRecord := by
  rw [Plan.ofHead, if_pos h, Predicate.checkOperators_eq]
  rfl

section

variable {head record : Literal} {key : String}

theorem ofHead_error_of_compile
    (hrecord : ∀ key ∈ record.keys, Operator.isOperatorKey key = false)
    (h : Predicate.compile (dereference head record) = .error (.unsupportedOperator key)) :
    ∃ first, Plan.ofHead head = .error (.unsupportedOperator first) := by
  cases hmarkers : occursIn head with
  | false =>
      rw [dereference, substitute_of_not_occursIn hmarkers] at h
      refine ⟨key, ?_⟩
      rw [Plan.ofHead, if_neg (by simp [hmarkers]), h]
      rfl
  | true =>
      have hkey : key ∈ Predicate.unknownKeys head := by
        rw [← Predicate.unknownKeys_dereference hrecord head]
        exact Predicate.mem_unknownKeys_of_compile
          (Predicate.occursIn_dereference hrecord head) h
      obtain ⟨first, hfirst⟩ := Predicate.refuseFirst_of_mem hkey
      refine ⟨first, ?_⟩
      rw [ofHead_of_occursIn hmarkers, hfirst]
      rfl

end

/-- No rule meets an unknown operator in a record without keys that begin with a dollar:
a head that would is one that no rule is built from. -/
theorem matchesRecord_ne_unsupportedOperator {record : Literal}
    (hrecord : ∀ key ∈ record.keys, Operator.isOperatorKey key = false)
    (head : Literal) (tail? : Option Literal) (name : String) :
    (∀ rule, ofParts head tail? name = .ok rule → ∀ now? clock key,
      { rule with now? := now? }.matchesRecord clock record ≠ .error (.unsupportedOperator key)) ∧
    ∀ key, Predicate.compile (dereference head record) = .error (.unsupportedOperator key) →
      ∃ first, ofParts head tail? name = .error (.unsupportedOperator first) := by
  have hrefused : ∀ key,
      Predicate.compile (dereference head record) = .error (.unsupportedOperator key) →
      ∃ first, ofParts head tail? name = .error (.unsupportedOperator first) := by
    intro key h
    obtain ⟨first, hfirst⟩ := ofHead_error_of_compile hrecord h
    exact ⟨first, ofParts_eq_error hfirst tail? name⟩
  refine ⟨fun rule hrule now? clock key h => ?_, hrefused⟩
  obtain ⟨rfl, -⟩ := ofParts_inv hrule
  rw [matchesRecord_eq, Literal.matchesRecord] at h
  obtain ⟨first, hfirst⟩ := hrefused key (error_of_bind_ok h)
  rw [hrule] at hfirst
  cases hfirst

/-- The value that a marker stands for becomes the operand of `$not`; a misspelled operator
beside a marker is refused when the rule is built. -/
theorem matchesRecord_ne_unsupportedOperator_marker :
    let record : Literal :=
      .mapping [("a", .bool true), ("b", .mapping [("c", .mapping [("d", .null)])])]
    let marker : Literal := .mapping [("$ref", .string "/b")]
    let head : Literal := .mapping [("a", .mapping [("$not", marker)])]
    let misspelled : Literal := .mapping [("a", marker), ("b", .mapping [("$gtt", .null)])]
    (∀ key ∈ record.keys, Operator.isOperatorKey key = false) ∧
      (∃ rule, ofParts head none "" = .ok rule ∧ ∀ now? clock key,
        { rule with now? := now? }.matchesRecord clock record ≠
          .error (.unsupportedOperator key)) ∧
      Predicate.compile (dereference misspelled record) =
        .error (.unsupportedOperator "$gtt") ∧
      ∃ first, ofParts misspelled none "" = .error (.unsupportedOperator first) := by
  intro record marker head misspelled
  have hrecord : ∀ key ∈ record.keys, Operator.isOperatorKey key = false := by decide
  obtain ⟨rule, hrule, -⟩ := ofParts_eq_ok (show Plan.ofHead head = .ok .perRecord from rfl) none ""
  have hmisspelled : Predicate.compile (dereference misspelled record) =
      .error (.unsupportedOperator "$gtt") := rfl
  exact ⟨hrecord, ⟨rule, hrule,
      (matchesRecord_ne_unsupportedOperator hrecord head none "").1 rule hrule⟩, hmisspelled,
    (matchesRecord_ne_unsupportedOperator hrecord misspelled none "").2 "$gtt" hmisspelled⟩

theorem lookup_markerKey_insert {before after : List (String × Literal)} {key : String}
    {value : Literal} (h : lookup markerKey (before ++ after) = none) (hkey : key ≠ markerKey) :
    lookup markerKey (before ++ (key, value) :: after) = none := by
  rw [lookup_eq_none_iff] at h ⊢
  intro entry hentry
  rcases List.mem_append.1 hentry with hentry | hentry
  · exact h entry (List.mem_append_left after hentry)
  · rcases List.mem_cons.1 hentry with rfl | hentry
    · exact hkey
    · exact h entry (List.mem_append_right before hentry)

/-- What the check refuses in a head that compiles is an unknown key in its data.  Compiling
does not mind that key, so a field with a marker makes the head refused that was taken. -/
theorem checkOperators_of_compile {head : Literal} (hmarkers : occursIn head = false)
    (hcompile : ∃ p, Predicate.compile head = .ok p) :
    Predicate.checkOperators head =
      Predicate.refuseFirst ((Predicate.dataOf head).flatMap Predicate.unknownKeys) ∧
    ∀ before after key target, head = .mapping (before ++ after) →
      Operator.isOperatorKey key = false →
      Plan.ofHead (.mapping (before ++ (key, .mapping [(markerKey, target)]) :: after)) =
        Predicate.refuseFirst ((Predicate.dataOf head).flatMap Predicate.unknownKeys) >>=
          fun _ => .ok .perRecord := by
  have hkeys := Predicate.unknownKeys_of_compile hmarkers (isOk_iff_exists.2 hcompile)
  rw [← hkeys]
  refine ⟨Predicate.checkOperators_eq head, ?_⟩
  rintro before after key target rfl hkey
  have hnone := lookup_markerKey_of_not_occursIn hmarkers
  have hplain : key ≠ markerKey := by
    rintro rfl
    cases hkey
  have hoccurs : occursIn
      (.mapping (before ++ (key, .mapping [(markerKey, target)]) :: after)) = true := by
    rw [occursIn, occursInEntries_eq_any]
    simp [occursIn, occursInEntries]
  have hmarker : Predicate.unknownKeys (.mapping [(markerKey, target)]) = [] := by
    rw [Predicate.unknownKeys]
    simp [lookup]
  rw [ofHead_of_occursIn hoccurs, Predicate.unknownKeys_mapping hnone,
    Predicate.unknownKeys_mapping (lookup_markerKey_insert hnone hplain),
    Predicate.unknownKeysOfEntries_append, Predicate.unknownKeysOfEntries_append,
    Predicate.unknownKeysOfEntries, Predicate.isUnknown_of_not_isOperatorKey hkey, hmarker]
  rfl

/-- A head that compares a field with a mapping is accepted, and refused with a marker
beside it. -/
theorem checkOperators_of_compile_eq :
    let operand : Literal := .mapping [("$foo", .number 1)]
    let head : Literal := .mapping [("a", .mapping [("$eq", operand)])]
    let marker : Literal := .mapping [("$ref", .string "/c")]
    occursIn head = false ∧ (∃ p, Predicate.compile head = .ok p) ∧
      (∃ p, Plan.ofHead head = .ok (.fixed p)) ∧
      Predicate.checkOperators head = .error (.unsupportedOperator "$foo") ∧
      Plan.ofHead (.mapping [("a", .mapping [("$eq", operand)]), ("b", marker)]) =
        .error (.unsupportedOperator "$foo") := by
  intro operand head marker
  have hmarkers : occursIn head = false := by rfl
  have hcompile : ∃ p, Predicate.compile head = .ok p := ⟨_, rfl⟩
  obtain ⟨hcheck, hinsert⟩ := checkOperators_of_compile hmarkers hcompile
  exact ⟨hmarkers, hcompile, ⟨_, rfl⟩, hcheck.trans rfl,
    (hinsert [("a", .mapping [("$eq", operand)])] [] "b" (.string "/c") rfl rfl).trans rfl⟩

end RuleBook.Rule
