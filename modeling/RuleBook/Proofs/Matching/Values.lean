import RuleBook.Proofs.Matching.Undefined

/-!
# Values that tests look at

A test looks at the values that a path selects and at the elements of the sequences among them.
It holds if it accepts one of all these; where nothing is selected it answers for itself.
-/

namespace RuleBook

namespace Test

/-- A value and, when it is a sequence, its elements. -/
def scope : Literal → List Literal
  | .sequence items => .sequence items :: items
  | value => [value]

section

variable {t u : Test} {now : Instant} {values : List Literal}

theorem acceptsSome_eq (t : Test) (now : Instant) (value : Literal) :
    t.acceptsSome now value = (scope value).any (t.accepts now) := by
  cases value with
  | sequence items => rfl
  | _ => exact (Bool.or_false _).trans (Bool.or_false _).symm

theorem holds_eq (t : Test) (now : Instant) (values : List Literal) :
    t.holds now values =
      if values.isEmpty then t.acceptsUndefined
      else (values.flatMap scope).any (t.accepts now) := by
  rw [holds, List.any_flatMap, funext (acceptsSome_eq t now)]

theorem holds_of_accepts (hundefined : t.acceptsUndefined = true → u.acceptsUndefined = true)
    (haccepts : ∀ value, t.accepts now value = true → u.accepts now value = true)
    (h : t.holds now values = true) : u.holds now values = true := by
  rw [holds_eq] at h ⊢
  split at h
  · next hempty =>
    rw [if_pos hempty]
    exact hundefined h
  · next hne =>
    rw [if_neg hne]
    obtain ⟨value, hvalue, haccepted⟩ := List.any_eq_true.1 h
    exact List.any_eq_true.2 ⟨value, hvalue, haccepts value haccepted⟩

theorem holds_of_accepts_eq_false (hundefined : t.acceptsUndefined = false)
    (haccepts : ∀ value, t.accepts now value = false) : t.holds now values = false := by
  rw [holds_eq, hundefined]
  split
  · rfl
  · exact List.any_eq_false.2 fun value _ => by rw [haccepts]; decide

end

end Test

namespace Predicate

theorem exists_test_equalTo (x : Literal) : ∃ t, equalTo x = .test t ∧
    t.acceptsUndefined = x.isNull ∧ ∀ now value, t.accepts now value = equalOrMatch x value := by
  cases x with
  | regex r =>
      refine ⟨.matchesRegex r, rfl, rfl, fun now value => ?_⟩
      cases value with
      | regex r' => exact BEq.comm
      | _ => rfl
  | _ => exact ⟨_, rfl, rfl, fun _ _ => rfl⟩

theorem equalTo_holds (x : Literal) (now : Instant) (values : List Literal) :
    (equalTo x).holds now values =
      if values.isEmpty then x.isNull else (values.flatMap Test.scope).any (equalOrMatch x) := by
  obtain ⟨t, ht, hundefined, haccepts⟩ := exists_test_equalTo x
  rw [ht, holds, Test.holds_eq, hundefined, funext (haccepts now)]

def operatorHead (operator : Operator) (operand : Literal) : Literal :=
  .mapping [(operator.key, operand)]

def fieldHead (key : String) (operator : Operator) (operand : Literal) : Literal :=
  .mapping [(key, operatorHead operator operand)]

theorem ofKey?_key (operator : Operator) : Operator.ofKey? operator.key = some operator := by
  cases operator <;> rfl

theorem compileEntry_key (operator : Operator) (operand : Literal)
    (siblings : List (String × Literal)) :
    compileEntry siblings (operator.key, operand) = compileOperator operator operand siblings := by
  rw [compileEntry_operator (Operator.isOperatorKey_of_ofKey? (ofKey?_key operator)),
    lookupOperator, ofKey?_key]
  rfl

theorem compile_operatorHead (operator : Operator) (operand : Literal) :
    compile (operatorHead operator operand) =
      compileOperator operator operand [(operator.key, operand)] >>= fun conjunct =>
        .ok (conjoin conjunct.toList) := by
  rw [operatorHead, compile, compileEntries, compileEntry_key]
  rcases compileOperator operator operand [(operator.key, operand)] with e | _ | p <;> rfl

theorem compileField_operatorHead (operator : Operator) (operand : Literal) :
    compileField (operatorHead operator operand) = compile (operatorHead operator operand) :=
  compileField_of_ne (by simp [operatorHead])

section

variable {key : String} {operator : Operator} {operand : Literal}
  (hkey : Operator.isOperatorKey key = false)

include hkey

theorem isOk_compile_fieldHead : (compile (fieldHead key operator operand)).isOk =
    (compile (operatorHead operator operand)).isOk := by
  rw [fieldHead, isOk_compile_mapping, isOk_compileEntries_cons, isOk_compileEntry_field hkey,
    compileField_operatorHead]
  exact Bool.and_true _

theorem matchesRecord_fieldHead {p : Predicate}
    (h : compile (operatorHead operator operand) = .ok p) (now : Instant) (record : Literal) :
    (fieldHead key operator operand).matchesRecord now record =
      .ok (p.holds now (FieldPath.select (pathOfKey key) [record])) := by
  rw [fieldHead, Literal.matchesRecord, compile, compileEntries, compileEntry_field hkey,
    compileField_operatorHead, h]
  rfl

end

end Predicate

end RuleBook
