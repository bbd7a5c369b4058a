import RuleBook.Matching.Compile
import RuleBook.Proofs.Outcome
import Mathlib.Data.List.Forall2

/-!
# Compiling heads step by step

Compiling ends in a predicate or at the first failure.  Two compilations are compared by
whether they fail and by what their results mean, not by which failure comes first.
-/

namespace RuleBook

/-- Both fail, or both give results that stand in the relation. -/
inductive Alike {α β : Type} (R : α → β → Prop) : Except Error α → Except Error β → Prop
  | ok {a : α} {b : β} (h : R a b) : Alike R (.ok a) (.ok b)
  | error (e e' : Error) : Alike R (.error e) (.error e')

namespace Alike

variable {α β γ δ : Type} {R : α → β → Prop} {S : γ → δ → Prop}

theorem bind {a : Except Error α} {b : Except Error β} (h : Alike R a b)
    {f : α → Except Error γ} {g : β → Except Error δ} (hfg : ∀ x y, R x y → Alike S (f x) (g y)) :
    Alike S (a >>= f) (b >>= g) := by
  cases h with
  | ok h => exact hfg _ _ h
  | error e e' => exact .error e e'

theorem trans {T : β → γ → Prop} {U : α → γ → Prop} {a : Except Error α} {b : Except Error β}
    {c : Except Error γ} (h : Alike R a b) (htrans : ∀ x y z, R x y → T y z → U x z)
    (h' : Alike T b c) : Alike U a c := by
  cases h with
  | ok h => cases h' with
    | ok h' => exact .ok (htrans _ _ _ h h')
  | error e e' => cases h' with
    | error _ e'' => exact .error e e''

theorem refl (a : Except Error α) : Alike Eq a a := by
  cases a with
  | ok x => exact .ok rfl
  | error e => exact .error e e

theorem toOption_eq {a b : Except Error α} (h : Alike Eq a b) : a.toOption = b.toOption := by
  cases h with
  | ok h => rw [h]
  | error e e' => rfl

theorem isOk_eq {a : Except Error α} {b : Except Error β} (h : Alike R a b) : a.isOk = b.isOk := by
  cases h <;> rfl

end Alike

theorem Operator.isOperatorKey_of_ofKey? {key : String} {operator : Operator}
    (h : ofKey? key = some operator) : isOperatorKey key = true := by
  have hfound := List.find?_some h
  have hkey : operator.key = key := by simpa using hfound
  rw [← hkey]
  cases operator <;> rfl

theorem Operator.ofKey?_eq_none {key : String} (h : isOperatorKey key = false) :
    ofKey? key = none := by
  rw [Option.eq_none_iff_forall_ne_some]
  intro operator hoperator
  rw [isOperatorKey_of_ofKey? hoperator] at h
  cases h

namespace Predicate

def compileOperator (operator : Operator) (operand : Literal)
    (siblings : List (String × Literal)) : Except Error (Option Predicate) :=
  match operator with
  | .not => do
      let inner ← compile operand
      return some (.not inner)
  | .elemMatch => do
      let inner ← compile operand
      return some (.elemMatch inner)
  | .and => do
      let ps ← compileOperands .and operand
      return some (.and ps)
  | .or => do
      let ps ← compileOperands .or operand
      return some (.or ps)
  | .nor => do
      let ps ← compileOperands .nor operand
      return some (.nor ps)
  | operator => ofOperand operator operand siblings

variable {key : String} {siblings : List (String × Literal)} {operand : Literal}

theorem compileEntry_operator (h : Operator.isOperatorKey key = true) :
    compileEntry siblings (key, operand) =
      lookupOperator key >>= fun operator => compileOperator operator operand siblings := by
  rw [compileEntry, if_pos h]
  rfl

theorem compileEntry_field (h : Operator.isOperatorKey key = false) :
    compileEntry siblings (key, operand) =
      compileField operand >>= fun inner => .ok (some (.field (pathOfKey key) inner)) := by
  rw [compileEntry, if_neg (by simp [h])]
  rfl

theorem compileEntry_cases {conjunct : Option Predicate}
    (h : compileEntry siblings (key, operand) = .ok conjunct) :
    (Operator.isOperatorKey key = false ∧ ∃ inner, compileField operand = .ok inner ∧
      conjunct = some (.field (pathOfKey key) inner)) ∨
    ∃ operator, Operator.ofKey? key = some operator ∧
      compileOperator operator operand siblings = .ok conjunct := by
  cases hkey : Operator.isOperatorKey key with
  | false =>
      rw [compileEntry_field hkey] at h
      obtain ⟨inner, hinner, ⟨⟩⟩ := bind_eq_ok h
      exact .inl ⟨rfl, inner, hinner, rfl⟩
  | true =>
      rw [compileEntry_operator hkey, lookupOperator] at h
      cases hoperator : Operator.ofKey? key with
      | none =>
          rw [hoperator] at h
          cases h
      | some operator =>
          rw [hoperator] at h
          exact .inr ⟨operator, rfl, h⟩

theorem compileField_of_ne (h : operand ≠ .mapping []) :
    compileField operand = compile operand := by
  cases operand with
  | mapping entries =>
      cases entries with
      | nil => exact absurd rfl h
      | cons entry entries => rw [compileField, compile]
  | _ => rfl

theorem isOk_compile_mapping (entries : List (String × Literal)) :
    (compile (.mapping entries)).isOk = (compileEntries entries entries).isOk := by
  rw [compile]
  exact isOk_bind_ok _ _

theorem isOk_compileEntries_cons (entry : String × Literal) (entries : List (String × Literal)) :
    (compileEntries siblings (entry :: entries)).isOk =
      ((compileEntry siblings entry).isOk && (compileEntries siblings entries).isOk) := by
  rw [compileEntries]
  cases compileEntry siblings entry with
  | error e => rfl
  | ok conjunct => exact isOk_bind_ok _ _

theorem isOk_compileItems_cons (item : Literal) (items : List Literal) :
    (compileItems (item :: items)).isOk = ((compile item).isOk && (compileItems items).isOk) := by
  rw [compileItems]
  cases compile item with
  | error e => rfl
  | ok p => exact isOk_bind_ok _ _

section

variable (operand siblings)

theorem isOk_compileOperator_not :
    (compileOperator .not operand siblings).isOk = (compile operand).isOk := isOk_bind_ok _ _

theorem isOk_compileOperator_elemMatch :
    (compileOperator .elemMatch operand siblings).isOk = (compile operand).isOk :=
  isOk_bind_ok _ _

theorem isOk_compileOperator_and :
    (compileOperator .and operand siblings).isOk = (compileOperands .and operand).isOk :=
  isOk_bind_ok _ _

theorem isOk_compileOperator_or :
    (compileOperator .or operand siblings).isOk = (compileOperands .or operand).isOk :=
  isOk_bind_ok _ _

theorem isOk_compileOperator_nor :
    (compileOperator .nor operand siblings).isOk = (compileOperands .nor operand).isOk :=
  isOk_bind_ok _ _

theorem isOk_compileOperator_regex :
    (compileOperator .regex operand siblings).isOk =
      (Operand.regex operand (Literal.lookup Operator.options.key siblings)).isOk :=
  isOk_bind_ok _ _

theorem isOk_ofOperand_mod :
    (ofOperand .mod operand siblings).isOk =
      (Operand.divisorAndRemainder .mod operand).isOk := isOk_bind_ok _ _

end

theorem isOk_compileEntry_operator {operator : Operator} (h : Operator.ofKey? key = some operator) :
    (compileEntry siblings (key, operand)).isOk =
      (compileOperator operator operand siblings).isOk := by
  rw [compileEntry_operator (Operator.isOperatorKey_of_ofKey? h), lookupOperator, h]
  rfl

theorem isOk_compileEntry_field (h : Operator.isOperatorKey key = false) :
    (compileEntry siblings (key, operand)).isOk = (compileField operand).isOk := by
  rw [compileEntry_field h]
  exact isOk_bind_ok _ _

theorem isOk_compileEntry_cases (h : (compileEntry siblings (key, operand)).isOk = true) :
    (Operator.isOperatorKey key = false ∧ (compileField operand).isOk = true) ∨
    ∃ operator, Operator.ofKey? key = some operator ∧
      (compileOperator operator operand siblings).isOk = true := by
  obtain ⟨conjunct, hconjunct⟩ := isOk_iff_exists.1 h
  rcases compileEntry_cases hconjunct with ⟨hkey, inner, hinner, -⟩ | ⟨operator, hoperator, hok⟩
  · exact .inl ⟨hkey, isOk_iff_exists.2 ⟨inner, hinner⟩⟩
  · exact .inr ⟨operator, hoperator, isOk_iff_exists.2 ⟨conjunct, hok⟩⟩

end Predicate

end RuleBook
