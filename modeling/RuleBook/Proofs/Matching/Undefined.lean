import RuleBook.Proofs.Matching.Reordering

/-!
# Undefined fields

Below a field that selects nothing a head is asked of no value at all.  Tests for absence
and negations may hold then.  Of the other heads only those hold that come down to a
conjunction of nothing, such as one over an empty head or options without an expression.
-/

namespace RuleBook

open Literal

def Operand.isFalse (operand : Literal) : Bool :=
  match truth .exists operand with
  | .ok expected => !expected
  | .error _ => false

def Operand.hasNull : Literal → Bool
  | .sequence items => items.any isNull
  | _ => false

namespace Predicate

mutual

/-- Whether a head holds a negation, a test that a field does not exist, or null to be
equal to.  What `$elemMatch` asks of elements is asked of none here. -/
def testsAbsence : Literal → Bool
  | .null => true
  | .mapping entries => someEntryTestsAbsence entries
  | _ => false

def someTestsAbsence : List Literal → Bool
  | [] => false
  | item :: items => testsAbsence item || someTestsAbsence items

def someEntryTestsAbsence : List (String × Literal) → Bool
  | [] => false
  | entry :: entries => entryTestsAbsence entry || someEntryTestsAbsence entries

def entryTestsAbsence : String × Literal → Bool
  | (key, operand) =>
      match Operator.ofKey? key with
      | none => testsAbsence operand
      | some .ne => true
      | some .notIn => true
      | some .not => true
      | some .nor => true
      | some .exists => Operand.isFalse operand
      | some .eq => operand.isNull
      | some .isIn => Operand.hasNull operand
      | some .and => someOperandTestsAbsence operand
      | some .or => someOperandTestsAbsence operand
      | some _ => false

def someOperandTestsAbsence : Literal → Bool
  | .sequence items => someTestsAbsence items
  | _ => false

end

mutual

/-- Whether a head is a conjunction without any test. -/
def asksNothing : Literal → Bool
  | .mapping entries => everyEntryAsksNothing entries
  | _ => false

def everyAsksNothing : List Literal → Bool
  | [] => true
  | item :: items => asksNothing item && everyAsksNothing items

def someAsksNothing : List Literal → Bool
  | [] => false
  | item :: items => asksNothing item || someAsksNothing items

def everyEntryAsksNothing : List (String × Literal) → Bool
  | [] => true
  | entry :: entries => entryAsksNothing entry && everyEntryAsksNothing entries

def entryAsksNothing : String × Literal → Bool
  | (key, operand) =>
      match Operator.ofKey? key with
      | none => fieldAsksNothing operand
      | some .options => true
      | some .and => everyOperandAsksNothing operand
      | some .or => someOperandAsksNothing operand
      | some _ => false

def fieldAsksNothing : Literal → Bool
  | .mapping (entry :: entries) => everyEntryAsksNothing (entry :: entries)
  | _ => false

def everyOperandAsksNothing : Literal → Bool
  | .sequence items => everyAsksNothing items
  | _ => false

def someOperandAsksNothing : Literal → Bool
  | .sequence items => someAsksNothing items
  | _ => false

end

section

variable {key : String} {operator : Operator} {x : Literal} {items : List Literal}
  {siblings : List (String × Literal)} {now : Instant}

theorem eq_sequence_of_items (h : Operand.items operator x = .ok items) :
    x = .sequence items := by
  cases x with
  | sequence _ =>
      cases h
      rfl
  | _ => cases h

theorem exists_items_of_compileOperands {ps : List Predicate}
    (h : compileOperands operator x = .ok ps) :
    ∃ items, x = .sequence items ∧ compileItems items = .ok ps := by
  cases x with
  | sequence items => exact ⟨items, rfl, h⟩
  | _ => cases h

theorem equalTo_holds_nil : (equalTo x).holds now [] = x.isNull := by
  cases x <;> rfl

theorem compileOperator_holds_nil {conjunct : Option Predicate}
    (hoperator : Operator.ofKey? key = some operator)
    (hitems : ∀ items ps, x = .sequence items → compileItems items = .ok ps →
      someTestsAbsence items = false →
      ps.all (·.holds now []) = everyAsksNothing items ∧
        ps.any (·.holds now []) = someAsksNothing items)
    (habsence : entryTestsAbsence (key, x) = false)
    (h : compileOperator operator x siblings = .ok conjunct) :
    conjunct.toList.all (·.holds now []) = entryAsksNothing (key, x) := by
  rw [entryTestsAbsence, hoperator] at habsence
  rw [entryAsksNothing, hoperator]
  cases operator with
  | eq =>
      cases h
      have hnull : (equalTo x).holds now [] = false := equalTo_holds_nil.trans habsence
      simp [hnull]
  | isIn =>
      obtain ⟨items, hsequence, ⟨⟩⟩ := bind_eq_ok h
      obtain rfl := eq_sequence_of_items hsequence
      have hnull : (Predicate.test (.isIn items)).holds now [] = false := habsence
      simp [hnull]
  | «exists» =>
      obtain ⟨expected, htruth, ⟨⟩⟩ := bind_eq_ok h
      have hexpected : (!expected) = false := by
        simpa [Operand.isFalse, htruth] using habsence
      rw [Bool.not_eq_false'] at hexpected
      subst hexpected
      rfl
  | and =>
      obtain ⟨ps, hps, ⟨⟩⟩ := bind_eq_ok h
      obtain ⟨items, rfl, hcompile⟩ := exists_items_of_compileOperands hps
      have hall := (hitems items ps rfl hcompile habsence).1
      rw [← allHold_eq_all] at hall
      simpa [holds, everyOperandAsksNothing] using hall
  | or =>
      obtain ⟨ps, hps, ⟨⟩⟩ := bind_eq_ok h
      obtain ⟨items, rfl, hcompile⟩ := exists_items_of_compileOperands hps
      have hany := (hitems items ps rfl hcompile habsence).2
      rw [← anyHolds_eq_any] at hany
      simpa [holds, someOperandAsksNothing] using hany
  | ne | notIn | not | nor => cases habsence
  | regex | all | size | mod | type | olderThan | newerThan | elemMatch =>
      obtain ⟨_, -, ⟨⟩⟩ := bind_eq_ok h
      rfl
  | gt | gte | lt | lte | options =>
      cases h
      rfl

theorem select_nil (path : List String) : FieldPath.select path [] = [] := by
  induction path with
  | nil => rfl
  | cons segment path ih => exact ih

theorem compileEntry_holds_nil {conjunct : Option Predicate}
    (hfield : ∀ p, compileField x = .ok p → testsAbsence x = false →
      p.holds now [] = fieldAsksNothing x)
    (hitems : ∀ items ps, x = .sequence items → compileItems items = .ok ps →
      someTestsAbsence items = false →
      ps.all (·.holds now []) = everyAsksNothing items ∧
        ps.any (·.holds now []) = someAsksNothing items)
    (habsence : entryTestsAbsence (key, x) = false)
    (h : compileEntry siblings (key, x) = .ok conjunct) :
    conjunct.toList.all (·.holds now []) = entryAsksNothing (key, x) := by
  rcases compileEntry_cases h with ⟨hkey, inner, hinner, rfl⟩ | ⟨operator, hoperator, h⟩
  · have hnone := Operator.ofKey?_eq_none hkey
    rw [entryTestsAbsence, hnone] at habsence
    rw [entryAsksNothing, hnone]
    have hholds := hfield inner hinner habsence
    simpa [holds, select_nil] using hholds
  · exact compileOperator_holds_nil hoperator hitems habsence h

end

variable {now : Instant}

mutual

theorem compile_holds_nil : ∀ {x : Literal} {p : Predicate}, compile x = .ok p →
    testsAbsence x = false → p.holds now [] = asksNothing x
  | .mapping entries, _, h, habsence => by
      rw [compile] at h
      obtain ⟨conjuncts, hconjuncts, ⟨⟩⟩ := bind_eq_ok h
      rw [conjoin_holds]
      exact compileEntries_holds_nil hconjuncts habsence
  | .null, _, _, habsence => by cases habsence
  | .sequence _, _, rfl, _ => rfl
  | .bool _, _, rfl, _ => rfl
  | .number _, _, rfl, _ => rfl
  | .string _, _, rfl, _ => rfl
  | .date _, _, rfl, _ => rfl
  | .regex _, _, rfl, _ => rfl
  | .binary _, _, rfl, _ => rfl

theorem compileField_holds_nil : ∀ {x : Literal} {p : Predicate}, compileField x = .ok p →
    testsAbsence x = false → p.holds now [] = fieldAsksNothing x
  | .mapping [], _, rfl, _ => rfl
  | .mapping (entry :: entries), _, h, habsence => by
      rw [compileField] at h
      obtain ⟨conjuncts, hconjuncts, ⟨⟩⟩ := bind_eq_ok h
      rw [conjoin_holds]
      exact compileEntries_holds_nil hconjuncts habsence
  | .null, _, _, habsence => by cases habsence
  | .sequence _, _, rfl, _ => rfl
  | .bool _, _, rfl, _ => rfl
  | .number _, _, rfl, _ => rfl
  | .string _, _, rfl, _ => rfl
  | .date _, _, rfl, _ => rfl
  | .regex _, _, rfl, _ => rfl
  | .binary _, _, rfl, _ => rfl

theorem compileItems_holds_nil : ∀ {items : List Literal} {ps : List Predicate},
    compileItems items = .ok ps → someTestsAbsence items = false →
      ps.all (·.holds now []) = everyAsksNothing items ∧
        ps.any (·.holds now []) = someAsksNothing items
  | [], _, rfl, _ => ⟨rfl, rfl⟩
  | item :: items, _, h, habsence => by
      rw [compileItems] at h
      rw [someTestsAbsence, Bool.or_eq_false_iff] at habsence
      obtain ⟨p, hp, h⟩ := bind_eq_ok h
      obtain ⟨ps, hps, ⟨⟩⟩ := bind_eq_ok h
      obtain ⟨hall, hany⟩ := compileItems_holds_nil hps habsence.2
      rw [List.all_cons, List.any_cons, everyAsksNothing, someAsksNothing, hall, hany,
        compile_holds_nil hp habsence.1]
      exact ⟨rfl, rfl⟩

theorem compileEntries_holds_nil : ∀ {siblings entries : List (String × Literal)}
    {conjuncts : List Predicate}, compileEntries siblings entries = .ok conjuncts →
      someEntryTestsAbsence entries = false →
      conjuncts.all (·.holds now []) = everyEntryAsksNothing entries
  | _, [], _, rfl, _ => rfl
  | siblings, (key, value) :: entries, _, h, habsence => by
      rw [compileEntries] at h
      rw [someEntryTestsAbsence, Bool.or_eq_false_iff] at habsence
      obtain ⟨conjunct, hconjunct, h⟩ := bind_eq_ok h
      obtain ⟨conjuncts, hconjuncts, ⟨⟩⟩ := bind_eq_ok h
      rw [List.all_append, everyEntryAsksNothing, compileEntries_holds_nil hconjuncts habsence.2,
        compileEntry_holds_nil (fun _ => compileField_holds_nil)
          (fun items _ hvalue => by subst hvalue; exact compileItems_holds_nil)
          habsence.1 hconjunct]

end

theorem compile_field {key : String} {head : Literal} {p : Predicate}
    (hkey : Operator.isOperatorKey key = false) (h : compile (.mapping [(key, head)]) = .ok p) :
    ∃ inner, compileField head = .ok inner ∧ p = .field (pathOfKey key) inner := by
  rw [compile] at h
  obtain ⟨conjuncts, hconjuncts, ⟨⟩⟩ := bind_eq_ok h
  rw [compileEntries] at hconjuncts
  obtain ⟨conjunct, hconjunct, hconjuncts⟩ := bind_eq_ok hconjuncts
  rw [compileEntry_field hkey] at hconjunct
  obtain ⟨inner, hinner, ⟨⟩⟩ := bind_eq_ok hconjunct
  cases hconjuncts
  exact ⟨inner, hinner, rfl⟩

/-- A head without tests for absence matches below an undefined field if and only if it
comes down to a conjunction of nothing, the empty head aside. -/
theorem matchesRecord_undefined {key : String} {head record : Literal}
    (hkey : Operator.isOperatorKey key = false)
    (hcompile : ∃ p, compile (.mapping [(key, head)]) = .ok p)
    (hundefined : FieldPath.select (pathOfKey key) [record] = [])
    (habsence : testsAbsence head = false) (now : Instant) :
    (Literal.mapping [(key, head)]).matchesRecord now record = .ok (fieldAsksNothing head) := by
  obtain ⟨p, hp⟩ := hcompile
  obtain ⟨inner, hinner, rfl⟩ := compile_field hkey hp
  rw [Literal.matchesRecord, hp]
  show Except.ok (inner.holds now (FieldPath.select (pathOfKey key) [record])) = _
  rw [hundefined, compileField_holds_nil hinner habsence]

/-- The field `a` is not there, and a conjunction over an empty head holds of it. -/
theorem matchesRecord_undefined_conjunction :
    let record : Literal := .mapping [("b", .number 1)]
    let head : Literal := .mapping [("$and", .sequence [.mapping []])]
    FieldPath.select (pathOfKey "a") [record] = [] ∧
      ∀ now, (Literal.mapping [("a", head)]).matchesRecord now record = .ok true ∧
        (Literal.mapping [("a", .mapping [])]).matchesRecord now record = .ok false := by
  intro record head
  have hundefined : FieldPath.select (pathOfKey "a") [record] = [] := by
    rw [show pathOfKey "a" = ["a"] by decide]
    rfl
  refine ⟨hundefined, fun now => ⟨?_, ?_⟩⟩
  · exact matchesRecord_undefined rfl ⟨_, rfl⟩ hundefined rfl now
  · exact matchesRecord_undefined rfl ⟨_, rfl⟩ hundefined rfl now

end Predicate

end RuleBook
