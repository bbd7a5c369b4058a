import RuleBook.Proofs.Matching.Undefined
import RuleBook.Proofs.Text.Separator

/-!
# Fields that heads ask for

The first segment of a field path chooses an entry of a record, and the rest of the path sees
nothing else.  A path behind another one goes on from what that one selects, so a field path
may be written in one key or in the keys of heads below each other.
-/

namespace RuleBook

open Literal

namespace FieldPath

theorem select_append (path more : List String) (values : List Literal) :
    select (path ++ more) values = select more (select path values) := by
  induction path generalizing values with
  | nil => rfl
  | cons segment path ih => exact ih _

theorem select_mapping (segment : String) (path : List String)
    (entries : List (String × Literal)) :
    select (segment :: path) [.mapping entries] =
      select path (lookup segment entries).toList := by
  rw [select, List.flatMap_singleton, step]

end FieldPath

namespace Predicate

def fieldOfKey (key : String) : String := (pathOfKey key).headD ""

theorem exists_pathOfKey (key : String) : ∃ path, pathOfKey key = fieldOfKey key :: path := by
  have hne : pathOfKey key ≠ [] := fun h => Text.splitOn_ne_nil _ _ (List.map_eq_nil_iff.1 h)
  obtain ⟨segment, path, hpath⟩ := List.exists_cons_of_ne_nil hne
  exact ⟨path, by rw [fieldOfKey, hpath, List.headD_cons]⟩

theorem toList_dotted (key more : String) :
    (key ++ "." ++ more).toList = key.toList ++ '.' :: more.toList := by
  simp [String.toList_append]

theorem pathOfKey_dotted (key more : String) :
    pathOfKey (key ++ "." ++ more) = pathOfKey key ++ pathOfKey more := by
  rw [pathOfKey, toList_dotted, Text.splitOn_append_cons, List.map_append, pathOfKey, pathOfKey]

mutual

/-- Whether a head asks for fields of the record only, by itself or in the heads that it
combines. -/
def isFieldOnly : Literal → Bool
  | .mapping entries => everyEntryIsFieldOnly entries
  | _ => false

def everyIsFieldOnly : List Literal → Bool
  | [] => true
  | item :: items => isFieldOnly item && everyIsFieldOnly items

def everyEntryIsFieldOnly : List (String × Literal) → Bool
  | [] => true
  | entry :: entries => entryIsFieldOnly entry && everyEntryIsFieldOnly entries

def entryIsFieldOnly : String × Literal → Bool
  | (key, operand) =>
      match Operator.ofKey? key with
      | none => !Operator.isOperatorKey key
      | some .not => isFieldOnly operand
      | some .and => everyOperandIsFieldOnly operand
      | some .or => everyOperandIsFieldOnly operand
      | some .nor => everyOperandIsFieldOnly operand
      | some _ => false

def everyOperandIsFieldOnly : Literal → Bool
  | .sequence items => everyIsFieldOnly items
  | _ => false

end

mutual

/-- The fields that a head of fields asks for. -/
def fieldsOf : Literal → List String
  | .mapping entries => fieldsOfEntries entries
  | _ => []

def fieldsOfItems : List Literal → List String
  | [] => []
  | item :: items => fieldsOf item ++ fieldsOfItems items

def fieldsOfEntries : List (String × Literal) → List String
  | [] => []
  | entry :: entries => fieldsOfEntry entry ++ fieldsOfEntries entries

def fieldsOfEntry : String × Literal → List String
  | (key, operand) =>
      match Operator.ofKey? key with
      | none => [fieldOfKey key]
      | some .not => fieldsOf operand
      | some _ => fieldsOfOperands operand

def fieldsOfOperands : Literal → List String
  | .sequence items => fieldsOfItems items
  | _ => []

end

/-- Under each of the fields two records hold the same, or both of them nothing. -/
def AgreeOn (fields : List String) (xs ys : List (String × Literal)) : Prop :=
  ∀ field ∈ fields, lookup field xs = lookup field ys

theorem agreeOn_append {fields more : List String} {xs ys : List (String × Literal)} :
    AgreeOn (fields ++ more) xs ys ↔ AgreeOn fields xs ys ∧ AgreeOn more xs ys :=
  List.forall_mem_append

def HoldsAlike (v w : Literal) (p : Predicate) : Prop :=
  ∀ now, p.holds now [v] = p.holds now [w]

section

variable {v w : Literal} {p : Predicate} {ps : List Predicate}

namespace HoldsAlike

theorem not (h : HoldsAlike v w p) : HoldsAlike v w (.not p) := fun now => by
  rw [holds, holds, h now]

theorem and (h : ∀ p ∈ ps, HoldsAlike v w p) : HoldsAlike v w (.and ps) := fun now =>
  allHold_congr fun p hp => h p hp now

theorem or (h : ∀ p ∈ ps, HoldsAlike v w p) : HoldsAlike v w (.or ps) := fun now =>
  anyHolds_congr fun p hp => h p hp now

theorem nor (h : ∀ p ∈ ps, HoldsAlike v w p) : HoldsAlike v w (.nor ps) := fun now => by
  rw [holds, holds, anyHolds_congr fun p hp => h p hp now]

theorem conjoin (h : ∀ p ∈ ps, HoldsAlike v w p) : HoldsAlike v w (conjoin ps) := fun now => by
  rw [conjoin_holds, conjoin_holds, ← allHold_eq_all, ← allHold_eq_all,
    allHold_congr fun p hp => h p hp now]

theorem field {key : String} {xs ys : List (String × Literal)}
    (h : lookup (fieldOfKey key) xs = lookup (fieldOfKey key) ys) :
    HoldsAlike (.mapping xs) (.mapping ys) (.field (pathOfKey key) p) := fun now => by
  obtain ⟨path, hpath⟩ := exists_pathOfKey key
  rw [holds, holds, hpath, FieldPath.select_mapping, FieldPath.select_mapping, h]

end HoldsAlike

end

section

variable {xs ys : List (String × Literal)} {key : String} {x : Literal}
  {siblings : List (String × Literal)} {conjunct : Option Predicate}
  (hhead : ∀ p, compile x = .ok p → isFieldOnly x = true → AgreeOn (fieldsOf x) xs ys →
    HoldsAlike (.mapping xs) (.mapping ys) p)
  (hoperands : ∀ operator ps, compileOperands operator x = .ok ps →
    everyOperandIsFieldOnly x = true → AgreeOn (fieldsOfOperands x) xs ys →
    ∀ p ∈ ps, HoldsAlike (.mapping xs) (.mapping ys) p)

include hhead hoperands

theorem compileOperator_alike {operator : Operator}
    (hoperator : Operator.ofKey? key = some operator)
    (honly : entryIsFieldOnly (key, x) = true)
    (hagree : AgreeOn (fieldsOfEntry (key, x)) xs ys)
    (h : compileOperator operator x siblings = .ok conjunct) :
    ∀ p ∈ conjunct.toList, HoldsAlike (.mapping xs) (.mapping ys) p := by
  rw [entryIsFieldOnly, hoperator] at honly
  rw [fieldsOfEntry, hoperator] at hagree
  cases operator with
  | not =>
      obtain ⟨inner, hinner, ⟨⟩⟩ := bind_eq_ok h
      exact List.forall_mem_singleton.2 (.not (hhead inner hinner honly hagree))
  | and =>
      obtain ⟨ps, hps, ⟨⟩⟩ := bind_eq_ok h
      exact List.forall_mem_singleton.2 (.and (hoperands .and ps hps honly hagree))
  | or =>
      obtain ⟨ps, hps, ⟨⟩⟩ := bind_eq_ok h
      exact List.forall_mem_singleton.2 (.or (hoperands .or ps hps honly hagree))
  | nor =>
      obtain ⟨ps, hps, ⟨⟩⟩ := bind_eq_ok h
      exact List.forall_mem_singleton.2 (.nor (hoperands .nor ps hps honly hagree))
  | _ => cases honly

theorem compileEntry_alike (honly : entryIsFieldOnly (key, x) = true)
    (hagree : AgreeOn (fieldsOfEntry (key, x)) xs ys)
    (h : compileEntry siblings (key, x) = .ok conjunct) :
    ∀ p ∈ conjunct.toList, HoldsAlike (.mapping xs) (.mapping ys) p := by
  rcases compileEntry_cases h with ⟨hkey, inner, -, rfl⟩ | ⟨operator, hoperator, h⟩
  · rw [fieldsOfEntry, Operator.ofKey?_eq_none hkey] at hagree
    exact List.forall_mem_singleton.2 (.field (hagree _ (List.mem_singleton_self _)))
  · exact compileOperator_alike hhead hoperands hoperator honly hagree h

end

section

variable {xs ys : List (String × Literal)}

mutual

/-- A head of fields sees of a record only what stands under the fields that it mentions. -/
theorem compile_alike : ∀ {x : Literal} {p : Predicate}, compile x = .ok p →
    isFieldOnly x = true → AgreeOn (fieldsOf x) xs ys →
      HoldsAlike (.mapping xs) (.mapping ys) p
  | .mapping entries, _, h, honly, hagree => by
      rw [compile] at h
      obtain ⟨conjuncts, hconjuncts, ⟨⟩⟩ := bind_eq_ok h
      exact .conjoin (compileEntries_alike hconjuncts honly hagree)
  | .sequence _, _, _, honly, _ => by cases honly
  | .null, _, _, honly, _ => by cases honly
  | .bool _, _, _, honly, _ => by cases honly
  | .number _, _, _, honly, _ => by cases honly
  | .string _, _, _, honly, _ => by cases honly
  | .date _, _, _, honly, _ => by cases honly
  | .regex _, _, _, honly, _ => by cases honly
  | .binary _, _, _, honly, _ => by cases honly

theorem compileOperands_alike : ∀ {operator : Operator} {x : Literal} {ps : List Predicate},
    compileOperands operator x = .ok ps → everyOperandIsFieldOnly x = true →
      AgreeOn (fieldsOfOperands x) xs ys → ∀ p ∈ ps, HoldsAlike (.mapping xs) (.mapping ys) p
  | _, .sequence _, _, h, honly, hagree => compileItems_alike h honly hagree
  | _, .mapping _, _, _, honly, _ => by cases honly
  | _, .null, _, _, honly, _ => by cases honly
  | _, .bool _, _, _, honly, _ => by cases honly
  | _, .number _, _, _, honly, _ => by cases honly
  | _, .string _, _, _, honly, _ => by cases honly
  | _, .date _, _, _, honly, _ => by cases honly
  | _, .regex _, _, _, honly, _ => by cases honly
  | _, .binary _, _, _, honly, _ => by cases honly

theorem compileItems_alike : ∀ {items : List Literal} {ps : List Predicate},
    compileItems items = .ok ps → everyIsFieldOnly items = true →
      AgreeOn (fieldsOfItems items) xs ys → ∀ p ∈ ps, HoldsAlike (.mapping xs) (.mapping ys) p
  | [], _, rfl, _, _ => List.forall_mem_nil _
  | item :: items, _, h, honly, hagree => by
      rw [compileItems] at h
      rw [everyIsFieldOnly, Bool.and_eq_true] at honly
      rw [fieldsOfItems, agreeOn_append] at hagree
      obtain ⟨p, hp, h⟩ := bind_eq_ok h
      obtain ⟨ps, hps, ⟨⟩⟩ := bind_eq_ok h
      exact List.forall_mem_cons.2
        ⟨compile_alike hp honly.1 hagree.1, compileItems_alike hps honly.2 hagree.2⟩

theorem compileEntries_alike : ∀ {siblings entries : List (String × Literal)}
    {conjuncts : List Predicate}, compileEntries siblings entries = .ok conjuncts →
      everyEntryIsFieldOnly entries = true → AgreeOn (fieldsOfEntries entries) xs ys →
      ∀ p ∈ conjuncts, HoldsAlike (.mapping xs) (.mapping ys) p
  | _, [], _, rfl, _, _ => List.forall_mem_nil _
  | siblings, (key, value) :: entries, _, h, honly, hagree => by
      rw [compileEntries] at h
      rw [everyEntryIsFieldOnly, Bool.and_eq_true] at honly
      rw [fieldsOfEntries, agreeOn_append] at hagree
      obtain ⟨conjunct, hconjunct, h⟩ := bind_eq_ok h
      obtain ⟨conjuncts, hconjuncts, ⟨⟩⟩ := bind_eq_ok h
      exact List.forall_mem_append.2
        ⟨compileEntry_alike (fun _ => compile_alike) (fun _ _ => compileOperands_alike)
          honly.1 hagree.1 hconjunct, compileEntries_alike hconjuncts honly.2 hagree.2⟩

end

end

/-- The entries of a head below a field, as fields of their own. -/
def dottedEntries (key : String) (entries : List (String × Literal)) : List (String × Literal) :=
  entries.map fun entry => (key ++ "." ++ entry.1, entry.2)

def under (path : List String) : Predicate → Predicate
  | .field more inner => .field (path ++ more) inner
  | p => .field path p

theorem under_holds (path : List String) (p : Predicate) (now : Instant)
    (values : List Literal) :
    (under path p).holds now values = p.holds now (FieldPath.select path values) := by
  cases p with
  | field more inner => rw [under, holds, holds, FieldPath.select_append]
  | _ => rfl

theorem conjoin_under_holds (path : List String) (ps : List Predicate) (now : Instant)
    (values : List Literal) :
    (conjoin (ps.map (under path))).holds now values =
      (conjoin ps).holds now (FieldPath.select path values) := by
  simp only [conjoin_holds, List.all_map, Function.comp_def, under_holds]

section

variable {key : String} {entries : List (String × Literal)}

theorem isOperatorKey_dotted (hkey : Operator.isOperatorKey key = false) (more : String) :
    Operator.isOperatorKey (key ++ "." ++ more) = false := by
  rw [Operator.isOperatorKey] at hkey ⊢
  rw [toList_dotted]
  cases htext : key.toList with
  | nil => rfl
  | cons c text =>
      rw [htext] at hkey
      exact hkey

theorem compileEntries_dotted (hkey : Operator.isOperatorKey key = false)
    (hentries : ∀ entry ∈ entries, Operator.isOperatorKey entry.1 = false)
    (siblings siblings' : List (String × Literal)) :
    compileEntries siblings (dottedEntries key entries) =
      compileEntries siblings' entries >>= fun ps => .ok (ps.map (under (pathOfKey key))) := by
  induction entries with
  | nil => rfl
  | cons entry entries ih =>
      obtain ⟨hentry, hmore⟩ := List.forall_mem_cons.1 hentries
      rw [dottedEntries] at ih
      rw [dottedEntries, List.map_cons, compileEntries, compileEntries, ih hmore,
        compileEntry_field (isOperatorKey_dotted hkey entry.1), compileEntry_field hentry,
        pathOfKey_dotted]
      cases compileField entry.2 with
      | error e => rfl
      | ok inner => cases compileEntries siblings' entries <;> rfl

theorem compile_nested (hkey : Operator.isOperatorKey key = false) (hne : entries ≠ []) :
    compile (.mapping [(key, .mapping entries)]) =
      compileEntries entries entries >>= fun ps =>
        .ok (.field (pathOfKey key) (conjoin ps)) := by
  rw [compile, compileEntries, compileEntry_field hkey, compileField_of_ne (by simpa using hne),
    compile]
  cases compileEntries entries entries <;> rfl

theorem compile_dotted (hkey : Operator.isOperatorKey key = false)
    (hentries : ∀ entry ∈ entries, Operator.isOperatorKey entry.1 = false) :
    compile (.mapping (dottedEntries key entries)) =
      compileEntries entries entries >>= fun ps =>
        .ok (conjoin (ps.map (under (pathOfKey key)))) := by
  rw [compile, compileEntries_dotted hkey hentries _ entries]
  cases compileEntries entries entries <;> rfl

end

end Predicate

end RuleBook
