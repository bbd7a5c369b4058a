import RuleBook.Proofs.Matching.Compile
import RuleBook.Proofs.Reference.Filling

/-!
# Unknown operators

A key that begins with a dollar and names no operator is unknown.  The check that is made
before any record is seen refuses the first unknown key outside of markers, in heads and in
data alike.  Compiling refuses unknown keys of heads only, so that it meets none that the
check has not met.
-/

namespace RuleBook

open Literal Reference

/-! ## Keys -/

namespace Literal

mutual

def keys : Literal → List String
  | .sequence items => keysOfItems items
  | .mapping entries => keysOfEntries entries
  | _ => []

def keysOfItems : List Literal → List String
  | [] => []
  | item :: items => keys item ++ keysOfItems items

def keysOfEntries : List (String × Literal) → List String
  | [] => []
  | (key, value) :: entries => key :: (keys value ++ keysOfEntries entries)

end

end Literal

def Operator.isUnknown (key : String) : Bool := isOperatorKey key && (ofKey? key).isNone

namespace Predicate

mutual

/-- The unknown keys of a literal in their order, without those inside of markers. -/
def unknownKeys : Literal → List String
  | .sequence items => unknownKeysOfItems items
  | .mapping entries =>
      if (lookup markerKey entries).isSome then [] else unknownKeysOfEntries entries
  | _ => []

def unknownKeysOfItems : List Literal → List String
  | [] => []
  | item :: items => unknownKeys item ++ unknownKeysOfItems items

def unknownKeysOfEntries : List (String × Literal) → List String
  | [] => []
  | (key, value) :: entries =>
      (if Operator.isUnknown key then [key] else []) ++
        (unknownKeys value ++ unknownKeysOfEntries entries)

end

def refuseFirst : List String → Except Error Unit
  | [] => .ok ()
  | key :: _ => .error (.unsupportedOperator key)

mutual

/-- The literals in a head that are compared with and are no heads themselves. -/
def dataOf : Literal → List Literal
  | .mapping entries => dataOfEntries entries
  | x => [x]

def dataOfOperands : Literal → List Literal
  | .sequence items => dataOfItems items
  | x => [x]

def dataOfItems : List Literal → List Literal
  | [] => []
  | item :: items => dataOf item ++ dataOfItems items

def dataOfEntries : List (String × Literal) → List Literal
  | [] => []
  | entry :: entries => dataOfEntry entry ++ dataOfEntries entries

def dataOfEntry : String × Literal → List Literal
  | (key, operand) =>
      match Operator.ofKey? key with
      | none => dataOf operand
      | some .not => dataOf operand
      | some .elemMatch => dataOf operand
      | some .and => dataOfOperands operand
      | some .or => dataOfOperands operand
      | some .nor => dataOfOperands operand
      | some _ => [operand]

end

/-! ## The check -/

theorem refuseFirst_append (keys keys' : List String) :
    refuseFirst (keys ++ keys') = refuseFirst keys >>= fun _ => refuseFirst keys' := by
  cases keys <;> rfl

theorem refuseFirst_of_mem {key : String} {keys : List String} (h : key ∈ keys) :
    ∃ first, refuseFirst keys = .error (.unsupportedOperator first) := by
  cases keys with
  | nil => cases h
  | cons first keys => exact ⟨first, rfl⟩

theorem isUnknown_of_not_isOperatorKey {key : String} (h : Operator.isOperatorKey key = false) :
    Operator.isUnknown key = false := by
  rw [Operator.isUnknown, h, Bool.false_and]

mutual

theorem checkOperators_eq : ∀ x : Literal, checkOperators x = refuseFirst (unknownKeys x)
  | .mapping entries => by
      rw [checkOperators, unknownKeys]
      split
      · rfl
      · exact checkEntries_eq entries
  | .sequence items => checkItems_eq items
  | .null => rfl
  | .bool _ => rfl
  | .number _ => rfl
  | .string _ => rfl
  | .date _ => rfl
  | .regex _ => rfl
  | .binary _ => rfl

theorem checkItems_eq : ∀ items : List Literal,
    checkItems items = refuseFirst (unknownKeysOfItems items)
  | [] => rfl
  | item :: items => by
      rw [checkItems, unknownKeysOfItems, refuseFirst_append, checkOperators_eq item,
        checkItems_eq items]

theorem checkEntries_eq : ∀ entries : List (String × Literal),
    checkEntries entries = refuseFirst (unknownKeysOfEntries entries)
  | [] => rfl
  | (key, value) :: entries => by
      rw [checkEntries, unknownKeysOfEntries, refuseFirst_append, refuseFirst_append,
        checkOperators_eq value, checkEntries_eq entries]
      cases hkey : Operator.isOperatorKey key with
      | false =>
          rw [isUnknown_of_not_isOperatorKey hkey]
          rfl
      | true =>
          rw [Operator.isUnknown, hkey, lookupOperator]
          cases Operator.ofKey? key <;> rfl

end

theorem unknownKeysOfItems_eq_flatMap (items : List Literal) :
    unknownKeysOfItems items = items.flatMap unknownKeys := by
  induction items with
  | nil => rfl
  | cons item items ih => rw [unknownKeysOfItems, ih, List.flatMap_cons]

theorem unknownKeys_mapping {entries : List (String × Literal)}
    (h : lookup markerKey entries = none) :
    unknownKeys (.mapping entries) = unknownKeysOfEntries entries := by
  rw [unknownKeys, h]
  rfl

theorem unknownKeysOfEntries_append (entries entries' : List (String × Literal)) :
    unknownKeysOfEntries (entries ++ entries') =
      unknownKeysOfEntries entries ++ unknownKeysOfEntries entries' := by
  induction entries with
  | nil => rfl
  | cons entry entries ih =>
      rw [List.cons_append, unknownKeysOfEntries, unknownKeysOfEntries, ih]
      simp only [List.append_assoc]

/-! ## Markers -/

section

variable {resolve : Literal → Literal}

mutual

theorem unknownKeys_substitute (hresolve : ∀ target, unknownKeys (resolve target) = []) :
    ∀ x : Literal, unknownKeys (substitute resolve x) = unknownKeys x
  | .mapping entries => by
      cases hlookup : lookup markerKey entries with
      | some target =>
          rw [substitute_marker hlookup, hresolve, unknownKeys, hlookup]
          rfl
      | none =>
          have hnone : lookup markerKey (substituteEntries resolve entries) = none := by
            rw [lookup_substituteEntries, hlookup, Option.map_none]
          rw [substitute_mapping hlookup, unknownKeys_mapping hnone, unknownKeys_mapping hlookup,
            unknownKeysOfEntries_substitute hresolve entries]
  | .sequence items => unknownKeysOfItems_substitute hresolve items
  | .null => rfl
  | .bool _ => rfl
  | .number _ => rfl
  | .string _ => rfl
  | .date _ => rfl
  | .regex _ => rfl
  | .binary _ => rfl

theorem unknownKeysOfItems_substitute (hresolve : ∀ target, unknownKeys (resolve target) = []) :
    ∀ items : List Literal,
      unknownKeysOfItems (substituteItems resolve items) = unknownKeysOfItems items
  | [] => rfl
  | item :: items => by
      rw [substituteItems, unknownKeysOfItems, unknownKeysOfItems,
        unknownKeys_substitute hresolve item, unknownKeysOfItems_substitute hresolve items]

theorem unknownKeysOfEntries_substitute (hresolve : ∀ target, unknownKeys (resolve target) = []) :
    ∀ entries : List (String × Literal),
      unknownKeysOfEntries (substituteEntries resolve entries) = unknownKeysOfEntries entries
  | [] => rfl
  | (key, value) :: entries => by
      rw [substituteEntries, unknownKeysOfEntries, unknownKeysOfEntries,
        unknownKeys_substitute hresolve value, unknownKeysOfEntries_substitute hresolve entries]

end

end

/-! ## Values found in a record -/

mutual

theorem occursIn_eq_contains : ∀ x : Literal, occursIn x = (keys x).contains markerKey
  | .mapping entries => occursInEntries_eq_contains entries
  | .sequence items => occursInItems_eq_contains items
  | .null => rfl
  | .bool _ => rfl
  | .number _ => rfl
  | .string _ => rfl
  | .date _ => rfl
  | .regex _ => rfl
  | .binary _ => rfl

theorem occursInItems_eq_contains : ∀ items : List Literal,
    occursInItems items = (keysOfItems items).contains markerKey
  | [] => rfl
  | item :: items => by
      rw [occursInItems, keysOfItems, List.contains_append, occursIn_eq_contains item,
        occursInItems_eq_contains items]

theorem occursInEntries_eq_contains : ∀ entries : List (String × Literal),
    occursInEntries entries = (keysOfEntries entries).contains markerKey
  | [] => rfl
  | (key, value) :: entries => by
      rw [occursInEntries, keysOfEntries, List.contains_cons, List.contains_append,
        occursIn_eq_contains value, occursInEntries_eq_contains entries, Bool.or_assoc,
        BEq.comm]

end

mutual

theorem mem_keys_of_mem_unknownKeys {key : String} : ∀ {x : Literal}, key ∈ unknownKeys x →
    key ∈ keys x ∧ Operator.isOperatorKey key = true
  | .mapping entries, h => by
      rw [unknownKeys] at h
      split at h
      · cases h
      · exact mem_keysOfEntries_of_mem_unknownKeys h
  | .sequence items, h => mem_keysOfItems_of_mem_unknownKeys h
  | .null, h => by cases h
  | .bool _, h => by cases h
  | .number _, h => by cases h
  | .string _, h => by cases h
  | .date _, h => by cases h
  | .regex _, h => by cases h
  | .binary _, h => by cases h

theorem mem_keysOfItems_of_mem_unknownKeys {key : String} : ∀ {items : List Literal},
    key ∈ unknownKeysOfItems items →
      key ∈ keysOfItems items ∧ Operator.isOperatorKey key = true
  | [], h => by cases h
  | item :: items, h => by
      rw [keysOfItems, List.mem_append]
      rcases List.mem_append.1 h with h | h
      · exact (mem_keys_of_mem_unknownKeys h).imp_left .inl
      · exact (mem_keysOfItems_of_mem_unknownKeys h).imp_left .inr

theorem mem_keysOfEntries_of_mem_unknownKeys {key : String} :
    ∀ {entries : List (String × Literal)}, key ∈ unknownKeysOfEntries entries →
      key ∈ keysOfEntries entries ∧ Operator.isOperatorKey key = true
  | [], h => by cases h
  | (k, value) :: entries, h => by
      rw [keysOfEntries, List.mem_cons, List.mem_append]
      rcases List.mem_append.1 h with h | h
      · split at h
        · next hk =>
          obtain rfl := List.mem_singleton.1 h
          exact ⟨.inl rfl, (Bool.and_eq_true_iff.1 hk).1⟩
        · cases h
      · rcases List.mem_append.1 h with h | h
        · exact (mem_keys_of_mem_unknownKeys h).imp_left fun hkey => .inr (.inl hkey)
        · exact (mem_keysOfEntries_of_mem_unknownKeys h).imp_left fun hkey => .inr (.inr hkey)

end

theorem keys_subset_keysOfItems {value : Literal} {items : List Literal} (h : value ∈ items) :
    keys value ⊆ keysOfItems items := by
  induction items with
  | nil => cases h
  | cons item items ih =>
      rw [keysOfItems]
      rcases List.mem_cons.1 h with rfl | h
      · exact List.subset_append_left _ _
      · exact List.Subset.trans (ih h) (List.subset_append_right _ _)

theorem keys_subset_keysOfEntries {key : String} {value : Literal}
    {entries : List (String × Literal)} (h : (key, value) ∈ entries) :
    keys value ⊆ keysOfEntries entries := by
  induction entries with
  | nil => cases h
  | cons entry entries ih =>
      obtain ⟨k, old⟩ := entry
      rw [keysOfEntries]
      refine List.Subset.trans ?_ (List.subset_cons_self _ _)
      rcases List.mem_cons.1 h with h | h
      · cases h
        exact List.subset_append_left _ _
      · exact List.Subset.trans (ih h) (List.subset_append_right _ _)

theorem inherited_keys_subset (allowed : List String) :
    Inherited fun x => keys x ⊆ allowed where
  item h _ hitem := List.Subset.trans (keys_subset_keysOfItems hitem) h
  entry h _ hentry := List.Subset.trans (keys_subset_keysOfEntries hentry) h

theorem keys_target_subset (record x : Literal) : keys (target record x) ⊆ keys record :=
  (inherited_keys_subset (keys record)).target (List.nil_subset _) (fun _ => id) x

section

variable {record : Literal} (hrecord : ∀ key ∈ keys record, Operator.isOperatorKey key = false)

include hrecord

theorem occursIn_of_keys : occursIn record = false := by
  rw [occursIn_eq_contains, Bool.eq_false_iff]
  intro hcontains
  cases hrecord markerKey (by simpa using hcontains)

theorem unknownKeys_target (x : Literal) : unknownKeys (target record x) = [] := by
  rw [List.eq_nil_iff_forall_not_mem]
  intro key hkey
  obtain ⟨hmem, hoperator⟩ := mem_keys_of_mem_unknownKeys hkey
  rw [hrecord key (keys_target_subset record x hmem)] at hoperator
  cases hoperator

theorem unknownKeys_dereference (head : Literal) :
    unknownKeys (dereference head record) = unknownKeys head :=
  unknownKeys_substitute (unknownKeys_target hrecord) head

theorem occursIn_dereference (head : Literal) : occursIn (dereference head record) = false :=
  occursIn_substitute (occursIn_target (occursIn_of_keys hrecord)) head

end

end Predicate

/-! ## What operands fail with -/

def BlamesOperand {α : Type} (a : Except Error α) : Prop :=
  ∀ e, a = .error e → ∃ operator cause, e = .invalidOperand operator cause

namespace BlamesOperand

variable {α β : Type}

theorem ok (x : α) : BlamesOperand (.ok x) := nofun

theorem reject (operator : Operator) (cause : OperandError) :
    BlamesOperand (Operand.reject operator cause : Except Error α) := by
  rintro e ⟨⟩
  exact ⟨operator, cause, rfl⟩

theorem bind {a : Except Error α} {f : α → Except Error β} (h : BlamesOperand a)
    (hf : ∀ x, BlamesOperand (f x)) : BlamesOperand (a >>= f) := by
  intro e he
  rcases bind_eq_error he with ha | ⟨x, -, hx⟩
  · exact h e ha
  · exact hf x e hx

end BlamesOperand

namespace Operand

variable (operator : Operator) (operand : Literal)

theorem blames_items : BlamesOperand (items operator operand) := by
  cases operand with
  | sequence items => exact .ok items
  | _ => exact .reject operator .array

theorem blames_truth : BlamesOperand (truth operator operand) := by
  cases operand with
  | bool b => exact .ok b
  | number x => exact .ok _
  | _ => exact .reject operator .boolean

theorem blames_count : BlamesOperand (count operator operand) := by
  cases operand with
  | number x =>
      rw [count]
      split
      · exact .ok _
      · exact .reject operator .count
  | _ => exact .reject operator .count

theorem blames_divisorAndRemainder : BlamesOperand (divisorAndRemainder operator operand) := by
  refine .bind (blames_items operator operand) fun items => ?_
  split
  · exact .ok _
  · exact .reject operator .divisorAndRemainder

theorem blames_nameOfType : BlamesOperand (nameOfType operator operand) := by
  cases operand with
  | string name =>
      rw [nameOfType]
      split
      · exact .ok name
      · exact .reject operator .typeName
  | _ => exact .reject operator .typeName

theorem blames_cutoff : BlamesOperand (cutoff operator operand) := by
  rw [cutoff]
  split
  · exact .ok _
  · exact .reject operator _

theorem blames_regexOf (source flags : String) : BlamesOperand (regexOf source flags) := by
  rw [regexOf]
  split
  · exact .ok _
  · exact .reject .regex _

theorem blames_regexOptions (options : Option Literal) : BlamesOperand (regexOptions options) := by
  unfold regexOptions
  split
  · exact .ok _
  · exact .ok _
  · exact .reject .options .text

theorem blames_regex (options : Option Literal) : BlamesOperand (regex operand options) := by
  refine .bind (blames_regexOptions options) fun flags => ?_
  split
  · exact blames_regexOf _ _
  · split
    · exact .ok _
    · exact blames_regexOf _ _
  · exact .reject .regex .textOrRegex

end Operand

namespace Predicate

theorem blames_ofOperand (operator : Operator) (operand : Literal)
    (siblings : List (String × Literal)) : BlamesOperand (ofOperand operator operand siblings) := by
  cases operator with
  | isIn | notIn | all => exact .bind (Operand.blames_items _ _) fun _ => .ok _
  | regex => exact .bind (Operand.blames_regex _ _) fun _ => .ok _
  | «exists» => exact .bind (Operand.blames_truth _ _) fun _ => .ok _
  | size => exact .bind (Operand.blames_count _ _) fun _ => .ok _
  | mod => exact .bind (Operand.blames_divisorAndRemainder _ _) fun _ => .ok _
  | type => exact .bind (Operand.blames_nameOfType _ _) fun _ => .ok _
  | olderThan | newerThan => exact .bind (Operand.blames_cutoff _ _) fun _ => .ok _
  | _ => exact .ok _

/-! ## What compiling refuses -/

section

variable {key : String} {x : Literal} {siblings : List (String × Literal)}

theorem mem_unknownKeys_of_compileOperator {operator : Operator}
    (hhead : compile x = .error (.unsupportedOperator key) → key ∈ unknownKeys x)
    (hheads : ∀ operator, compileOperands operator x = .error (.unsupportedOperator key) →
      key ∈ unknownKeys x)
    (h : compileOperator operator x siblings = .error (.unsupportedOperator key)) :
    key ∈ unknownKeys x := by
  have hother : ofOperand operator x siblings ≠ .error (.unsupportedOperator key) := by
    intro hofOperand
    obtain ⟨_, _, ⟨⟩⟩ := blames_ofOperand operator x siblings _ hofOperand
  cases operator with
  | not => exact hhead (error_of_bind_ok h)
  | elemMatch => exact hhead (error_of_bind_ok h)
  | and => exact hheads .and (error_of_bind_ok h)
  | or => exact hheads .or (error_of_bind_ok h)
  | nor => exact hheads .nor (error_of_bind_ok h)
  | _ => exact absurd h hother

theorem mem_unknownKeys_of_compileField
    (hhead : compile x = .error (.unsupportedOperator key) → key ∈ unknownKeys x)
    (h : compileField x = .error (.unsupportedOperator key)) : key ∈ unknownKeys x := by
  by_cases hempty : x = .mapping []
  · subst hempty
    cases h
  · rw [compileField_of_ne hempty] at h
    exact hhead h

theorem mem_unknownKeys_of_compileEntry {k : String}
    (hhead : compile x = .error (.unsupportedOperator key) → key ∈ unknownKeys x)
    (hheads : ∀ operator, compileOperands operator x = .error (.unsupportedOperator key) →
      key ∈ unknownKeys x)
    (h : compileEntry siblings (k, x) = .error (.unsupportedOperator key)) :
    key ∈ unknownKeysOfEntries [(k, x)] := by
  rw [unknownKeysOfEntries, unknownKeysOfEntries, List.append_nil, List.mem_append]
  cases hkey : Operator.isOperatorKey k with
  | false =>
      rw [compileEntry_field hkey] at h
      exact .inr (mem_unknownKeys_of_compileField hhead (error_of_bind_ok h))
  | true =>
      rw [compileEntry_operator hkey, lookupOperator] at h
      cases hoperator : Operator.ofKey? k with
      | none =>
          rw [hoperator] at h
          cases h
          left
          rw [Operator.isUnknown, hkey, hoperator]
          exact List.mem_singleton_self _
      | some operator =>
          rw [hoperator] at h
          exact .inr (mem_unknownKeys_of_compileOperator hhead hheads h)

end

mutual

theorem mem_unknownKeys_of_compile {key : String} : ∀ {x : Literal}, occursIn x = false →
    compile x = .error (.unsupportedOperator key) → key ∈ unknownKeys x
  | .mapping entries, hplain, h => by
      rw [compile] at h
      rw [unknownKeys_mapping (lookup_markerKey_of_not_occursIn hplain)]
      exact mem_unknownKeys_of_compileEntries hplain (error_of_bind_ok h)
  | .sequence _, _, h => by cases h
  | .null, _, h => by cases h
  | .bool _, _, h => by cases h
  | .number _, _, h => by cases h
  | .string _, _, h => by cases h
  | .date _, _, h => by cases h
  | .regex _, _, h => by cases h
  | .binary _, _, h => by cases h

theorem mem_unknownKeys_of_compileOperands {key : String} : ∀ {x : Literal} (operator : Operator),
    occursIn x = false → compileOperands operator x = .error (.unsupportedOperator key) →
      key ∈ unknownKeys x
  | .sequence items, _, hplain, h => mem_unknownKeys_of_compileItems hplain h
  | .mapping _, _, _, h => by cases h
  | .null, _, _, h => by cases h
  | .bool _, _, _, h => by cases h
  | .number _, _, _, h => by cases h
  | .string _, _, _, h => by cases h
  | .date _, _, _, h => by cases h
  | .regex _, _, _, h => by cases h
  | .binary _, _, _, h => by cases h

theorem mem_unknownKeys_of_compileItems {key : String} : ∀ {items : List Literal},
    occursInItems items = false → compileItems items = .error (.unsupportedOperator key) →
      key ∈ unknownKeysOfItems items
  | [], _, h => by cases h
  | item :: items, hplain, h => by
      rw [occursInItems, Bool.or_eq_false_iff] at hplain
      rw [compileItems] at h
      rw [unknownKeysOfItems, List.mem_append]
      rcases bind_eq_error h with hitem | ⟨p, -, hmore⟩
      · exact .inl (mem_unknownKeys_of_compile hplain.1 hitem)
      · exact .inr (mem_unknownKeys_of_compileItems hplain.2 (error_of_bind_ok hmore))

theorem mem_unknownKeys_of_compileEntries {key : String} {siblings : List (String × Literal)} :
    ∀ {entries : List (String × Literal)}, occursInEntries entries = false →
      compileEntries siblings entries = .error (.unsupportedOperator key) →
      key ∈ unknownKeysOfEntries entries
  | [], _, h => by cases h
  | (k, value) :: entries, hplain, h => by
      rw [occursInEntries_cons] at hplain
      obtain ⟨⟨-, hvalue⟩, hentries⟩ := hplain
      rw [compileEntries] at h
      rw [← List.singleton_append, unknownKeysOfEntries_append, List.mem_append]
      rcases bind_eq_error h with hentry | ⟨conjunct, -, hmore⟩
      · exact .inl (mem_unknownKeys_of_compileEntry (mem_unknownKeys_of_compile hvalue)
          (fun operator => mem_unknownKeys_of_compileOperands operator hvalue) hentry)
      · exact .inr (mem_unknownKeys_of_compileEntries hentries (error_of_bind_ok hmore))

end

/-! ## Unknown keys of a head that compiles -/

section

variable {x : Literal} {siblings : List (String × Literal)}

def dataOfOperator (operator : Operator) (operand : Literal) : List Literal :=
  match operator with
  | .not => dataOf operand
  | .elemMatch => dataOf operand
  | .and => dataOfOperands operand
  | .or => dataOfOperands operand
  | .nor => dataOfOperands operand
  | _ => [operand]

theorem dataOfEntry_operator {key : String} {operator : Operator}
    (h : Operator.ofKey? key = some operator) :
    dataOfEntry (key, x) = dataOfOperator operator x := by
  rw [dataOfEntry, h]
  cases operator <;> rfl

theorem dataOfEntry_field {key : String} (h : Operator.isOperatorKey key = false) :
    dataOfEntry (key, x) = dataOf x := by
  rw [dataOfEntry, Operator.ofKey?_eq_none h]

theorem unknownKeys_compileOperator {operator : Operator}
    (hhead : (compile x).isOk = true → unknownKeys x = (dataOf x).flatMap unknownKeys)
    (hheads : ∀ operator, (compileOperands operator x).isOk = true →
      unknownKeys x = (dataOfOperands x).flatMap unknownKeys)
    (h : (compileOperator operator x siblings).isOk = true) :
    unknownKeys x = (dataOfOperator operator x).flatMap unknownKeys := by
  cases operator with
  | not =>
      rw [isOk_compileOperator_not] at h
      exact hhead h
  | elemMatch =>
      rw [isOk_compileOperator_elemMatch] at h
      exact hhead h
  | and =>
      rw [isOk_compileOperator_and] at h
      exact hheads .and h
  | or =>
      rw [isOk_compileOperator_or] at h
      exact hheads .or h
  | nor =>
      rw [isOk_compileOperator_nor] at h
      exact hheads .nor h
  | _ => exact (List.flatMap_singleton unknownKeys x).symm

theorem unknownKeys_compileEntry {key : String}
    (hhead : (compile x).isOk = true → unknownKeys x = (dataOf x).flatMap unknownKeys)
    (hheads : ∀ operator, (compileOperands operator x).isOk = true →
      unknownKeys x = (dataOfOperands x).flatMap unknownKeys)
    (h : (compileEntry siblings (key, x)).isOk = true) :
    unknownKeysOfEntries [(key, x)] = (dataOfEntry (key, x)).flatMap unknownKeys := by
  rw [unknownKeysOfEntries, unknownKeysOfEntries, List.append_nil]
  rcases isOk_compileEntry_cases h with ⟨hkey, hfield⟩ | ⟨operator, hoperator, hok⟩
  · rw [isUnknown_of_not_isOperatorKey hkey, dataOfEntry_field hkey]
    by_cases hempty : x = .mapping []
    · subst hempty
      rfl
    · rw [compileField_of_ne hempty] at hfield
      exact hhead hfield
  · rw [Operator.isUnknown, Operator.isOperatorKey_of_ofKey? hoperator, hoperator,
      dataOfEntry_operator hoperator]
    exact unknownKeys_compileOperator hhead hheads hok

end

mutual

/-- In a head that compiles, unknown keys stand in its data only. -/
theorem unknownKeys_of_compile : ∀ {x : Literal}, occursIn x = false → (compile x).isOk = true →
    unknownKeys x = (dataOf x).flatMap unknownKeys
  | .mapping entries, hplain, h => by
      rw [isOk_compile_mapping] at h
      rw [unknownKeys_mapping (lookup_markerKey_of_not_occursIn hplain), dataOf]
      exact unknownKeys_of_compileEntries hplain h
  | .sequence items, _, _ => (List.flatMap_singleton unknownKeys _).symm
  | .null, _, _ => rfl
  | .bool _, _, _ => rfl
  | .number _, _, _ => rfl
  | .string _, _, _ => rfl
  | .date _, _, _ => rfl
  | .regex _, _, _ => rfl
  | .binary _, _, _ => rfl

theorem unknownKeys_of_compileOperands : ∀ {x : Literal} (operator : Operator),
    occursIn x = false → (compileOperands operator x).isOk = true →
      unknownKeys x = (dataOfOperands x).flatMap unknownKeys
  | .sequence items, _, hplain, h => unknownKeys_of_compileItems hplain h
  | .mapping _, _, _, h => by cases h
  | .null, _, _, h => by cases h
  | .bool _, _, _, h => by cases h
  | .number _, _, _, h => by cases h
  | .string _, _, _, h => by cases h
  | .date _, _, _, h => by cases h
  | .regex _, _, _, h => by cases h
  | .binary _, _, _, h => by cases h

theorem unknownKeys_of_compileItems : ∀ {items : List Literal},
    occursInItems items = false → (compileItems items).isOk = true →
      unknownKeysOfItems items = (dataOfItems items).flatMap unknownKeys
  | [], _, _ => rfl
  | item :: items, hplain, h => by
      rw [occursInItems, Bool.or_eq_false_iff] at hplain
      rw [isOk_compileItems_cons, Bool.and_eq_true] at h
      rw [unknownKeysOfItems, dataOfItems, List.flatMap_append,
        unknownKeys_of_compile hplain.1 h.1, unknownKeys_of_compileItems hplain.2 h.2]

theorem unknownKeys_of_compileEntries {siblings : List (String × Literal)} :
    ∀ {entries : List (String × Literal)}, occursInEntries entries = false →
      (compileEntries siblings entries).isOk = true →
      unknownKeysOfEntries entries = (dataOfEntries entries).flatMap unknownKeys
  | [], _, _ => rfl
  | (key, value) :: entries, hplain, h => by
      rw [occursInEntries_cons] at hplain
      obtain ⟨⟨-, hvalue⟩, hentries⟩ := hplain
      rw [isOk_compileEntries_cons, Bool.and_eq_true] at h
      rw [dataOfEntries, List.flatMap_append, ← unknownKeys_of_compileEntries hentries h.2,
        ← unknownKeys_compileEntry (unknownKeys_of_compile hvalue)
          (fun operator => unknownKeys_of_compileOperands operator hvalue) h.1,
        ← unknownKeysOfEntries_append, List.singleton_append]

end

end Predicate

end RuleBook
