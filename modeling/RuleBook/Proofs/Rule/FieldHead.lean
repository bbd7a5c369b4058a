import RuleBook.Proofs.Matching.Values
import RuleBook.Proofs.Rule.Fields

/-!
# Rules about one operator of one field

Markers and unknown operators of such a head are those of its operand, and to resolve its
markers is to resolve those of the operand.
-/

namespace RuleBook

open Literal Reference

namespace Predicate

section

variable {key : String} (operator : Operator) (operand : Literal)

theorem key_ne_markerKey : operator.key ≠ markerKey := by
  cases operator <;> decide

private theorem lookup_markerKey_operator : lookup markerKey [(operator.key, operand)] = none := by
  rw [lookup, if_neg (key_ne_markerKey operator), lookup]

theorem occursIn_operatorHead : occursIn (operatorHead operator operand) = occursIn operand := by
  have hkey : (operator.key == markerKey) = false :=
    beq_eq_false_iff_ne.2 (key_ne_markerKey operator)
  rw [operatorHead, occursIn, occursInEntries, occursInEntries, hkey, Bool.false_or, Bool.or_false]

theorem unknownKeys_operatorHead :
    unknownKeys (operatorHead operator operand) = unknownKeys operand := by
  have hknown : Operator.isUnknown operator.key = false := by
    rw [Operator.isUnknown, ofKey?_key]
    exact Bool.and_false _
  rw [operatorHead, unknownKeys_mapping (lookup_markerKey_operator _ _), unknownKeysOfEntries,
    hknown, unknownKeysOfEntries]
  exact List.append_nil _

theorem substitute_operatorHead (resolve : Literal → Literal) :
    substitute resolve (operatorHead operator operand) =
      operatorHead operator (substitute resolve operand) := by
  rw [operatorHead, substitute_mapping (lookup_markerKey_operator _ _), substituteEntries_eq_map]
  rfl

variable (hkey : Operator.isOperatorKey key = false)

include hkey

theorem occursIn_fieldHead : occursIn (fieldHead key operator operand) = occursIn operand := by
  rw [fieldHead, (areFields_singleton hkey _).occursIn_eq, List.any_cons, List.any_nil,
    Bool.or_false, occursIn_operatorHead]

theorem unknownKeys_fieldHead :
    unknownKeys (fieldHead key operator operand) = unknownKeys operand := by
  rw [fieldHead, (areFields_singleton hkey _).unknownKeys_eq, List.flatMap_singleton,
    unknownKeys_operatorHead]

theorem substitute_fieldHead (resolve : Literal → Literal) :
    substitute resolve (fieldHead key operator operand) =
      fieldHead key operator (substitute resolve operand) := by
  rw [fieldHead, (areFields_singleton hkey _).substitute_eq, List.map_singleton,
    substitute_operatorHead]
  rfl

end

end Predicate

namespace Rule

open Predicate

section

variable {key : String} {operator : Operator} {operand : Literal}
  (hkey : Operator.isOperatorKey key = false)

include hkey

theorem isOk_ofParts_fieldHead (tail? : Option Literal) (name : String) :
    (ofParts (fieldHead key operator operand) tail? name).isOk =
      if occursIn operand then (refuseFirst (unknownKeys operand)).isOk
      else (compile (operatorHead operator operand)).isOk := by
  rw [isOk_ofParts, Plan.ofHead, occursIn_fieldHead _ _ hkey]
  split
  · rw [checkOperators_eq, unknownKeys_fieldHead _ _ hkey]
    exact isOk_bind_ok _ _
  · rw [← isOk_compile_fieldHead hkey]
    exact isOk_bind_ok _ _

theorem matchesRecord_of_fieldHead {rule : Rule}
    (hrule : rule.head = fieldHead key operator operand) (clock : Instant) (record : Literal) :
    rule.matchesRecord clock record =
      (fieldHead key operator (dereference operand record)).matchesRecord (rule.now?.getD clock)
        record := by
  rw [matchesRecord_eq, hrule, dereference, substitute_fieldHead _ _ hkey, dereference]

end

end Rule

end RuleBook
