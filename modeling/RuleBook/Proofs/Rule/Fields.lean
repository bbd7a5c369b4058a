import RuleBook.Proofs.Matching.Fields
import RuleBook.Proofs.Matching.Operators
import RuleBook.Proofs.Rule.Plan

/-!
# Rules about fields

A rule whose head asks for fields gives one answer for all records that agree on them.  A head
below a field and keys with dots say the same, before markers are resolved and afterwards.
-/

namespace RuleBook

open Literal Reference

namespace Predicate

def AreFields (entries : List (String × Literal)) : Prop :=
  ∀ entry ∈ entries, Operator.isOperatorKey entry.1 = false

section

variable {key : String} {entries : List (String × Literal)}

theorem areFields_singleton (h : Operator.isOperatorKey key = false) (x : Literal) :
    AreFields [(key, x)] :=
  List.forall_mem_singleton.2 h

theorem areFields_dottedEntries (h : Operator.isOperatorKey key = false) :
    AreFields (dottedEntries key entries) :=
  List.forall_mem_map.2 fun entry _ => isOperatorKey_dotted h entry.1

theorem ne_markerKey (h : Operator.isOperatorKey key = false) : key ≠ markerKey := by
  rintro rfl
  cases h

namespace AreFields

theorem lookup_markerKey (h : AreFields entries) : lookup markerKey entries = none :=
  lookup_eq_none_iff.2 fun entry hentry => ne_markerKey (h entry hentry)

theorem occursIn_eq (h : AreFields entries) :
    occursIn (.mapping entries) = entries.any fun entry => occursIn entry.2 := by
  rw [occursIn]
  induction entries with
  | nil => rfl
  | cons entry entries ih =>
      obtain ⟨hentry, hmore⟩ := List.forall_mem_cons.1 h
      rw [occursInEntries, beq_eq_false_iff_ne.2 (ne_markerKey hentry), Bool.false_or, ih hmore,
        List.any_cons]

theorem unknownKeys_eq (h : AreFields entries) :
    unknownKeys (.mapping entries) = entries.flatMap fun entry => unknownKeys entry.2 := by
  rw [unknownKeys_mapping h.lookup_markerKey]
  induction entries with
  | nil => rfl
  | cons entry entries ih =>
      obtain ⟨hentry, hmore⟩ := List.forall_mem_cons.1 h
      rw [unknownKeysOfEntries, isUnknown_of_not_isOperatorKey hentry, ih hmore,
        List.flatMap_cons]
      rfl

theorem substitute_eq (h : AreFields entries) (resolve : Literal → Literal) :
    substitute resolve (.mapping entries) =
      .mapping (entries.map fun entry => (entry.1, substitute resolve entry.2)) := by
  rw [substitute_mapping h.lookup_markerKey, substituteEntries_eq_map]

theorem substituted (h : AreFields entries) (resolve : Literal → Literal) :
    AreFields (entries.map fun entry => (entry.1, substitute resolve entry.2)) :=
  List.forall_mem_map.2 h

end AreFields

theorem isOk_compile_dotted (hkey : Operator.isOperatorKey key = false) (hne : entries ≠ [])
    (hentries : AreFields entries) :
    (compile (.mapping [(key, .mapping entries)])).isOk =
      (compile (.mapping (dottedEntries key entries))).isOk := by
  rw [compile_nested hkey hne, compile_dotted hkey hentries, isOk_bind_ok, isOk_bind_ok]

theorem matchesRecord_nested (hkey : Operator.isOperatorKey key = false) (hne : entries ≠ [])
    (hentries : AreFields entries) (now : Instant) (record : Literal) :
    (Literal.mapping [(key, .mapping entries)]).matchesRecord now record =
      (Literal.mapping (dottedEntries key entries)).matchesRecord now record := by
  rw [Literal.matchesRecord, Literal.matchesRecord, compile_nested hkey hne,
    compile_dotted hkey hentries]
  cases compileEntries entries entries with
  | error e => rfl
  | ok ps => exact congrArg Except.ok (conjoin_under_holds _ ps now [record]).symm

theorem occursIn_dotted (hkey : Operator.isOperatorKey key = false)
    (hentries : AreFields entries) :
    occursIn (.mapping [(key, .mapping entries)]) =
      occursIn (.mapping (dottedEntries key entries)) := by
  rw [(areFields_singleton hkey _).occursIn_eq, List.any_cons, List.any_nil, Bool.or_false,
    hentries.occursIn_eq, (areFields_dottedEntries hkey).occursIn_eq, dottedEntries, List.any_map]
  rfl

theorem checkOperators_dotted (hkey : Operator.isOperatorKey key = false)
    (hentries : AreFields entries) :
    checkOperators (.mapping [(key, .mapping entries)]) =
      checkOperators (.mapping (dottedEntries key entries)) := by
  rw [checkOperators_eq, checkOperators_eq, (areFields_singleton hkey _).unknownKeys_eq,
    List.flatMap_cons, List.flatMap_nil, List.append_nil, hentries.unknownKeys_eq,
    (areFields_dottedEntries hkey).unknownKeys_eq, dottedEntries, List.flatMap_map]

end

end Predicate

namespace Rule

open Predicate

/-- A head of fields that compiles gives one answer for two records that agree on the fields
that it mentions, and so does every rule with such a head and without markers. -/
theorem matchesRecord_unmentioned {head : Literal} {xs ys : List (String × Literal)}
    (hhead : isFieldOnly head = true) (hcompile : ∃ p, compile head = .ok p)
    (hagree : AgreeOn (fieldsOf head) xs ys) :
    (∀ now, ∃ answer, head.matchesRecord now (.mapping xs) = .ok answer ∧
      head.matchesRecord now (.mapping ys) = .ok answer) ∧
    (occursIn head = false → ∀ rule : Rule, rule.head = head → ∀ clock, ∃ answer,
      rule.matchesRecord clock (.mapping xs) = .ok answer ∧
        rule.matchesRecord clock (.mapping ys) = .ok answer) := by
  obtain ⟨p, hp⟩ := hcompile
  have hanswer (now : Instant) : ∃ answer, head.matchesRecord now (.mapping xs) = .ok answer ∧
      head.matchesRecord now (.mapping ys) = .ok answer := by
    have hmatches (record : Literal) :
        head.matchesRecord now record = .ok (p.holdsFor now record) := by
      rw [Literal.matchesRecord, hp]
      rfl
    have halike : p.holdsFor now (.mapping xs) = p.holdsFor now (.mapping ys) :=
      compile_alike hp hhead hagree now
    exact ⟨_, hmatches _, by rw [hmatches, halike]⟩
  refine ⟨hanswer, fun hmarkers rule hrule clock => ?_⟩
  subst hrule
  rw [matchesRecord_eq, matchesRecord_eq, dereference, dereference,
    substitute_of_not_occursIn hmarkers, substitute_of_not_occursIn hmarkers]
  exact hanswer _

/-- The records differ in the order of their fields and in fields that are not mentioned; the
field `a` is in neither. -/
theorem matchesRecord_unmentioned_absent :
    let head : Literal := .mapping [("$nor", .sequence [.mapping [("a.b", .mapping [])],
      .mapping [("$not", .mapping [("c", .string "x")])]])]
    let xs : List (String × Literal) := [("c", .string "x"), ("d", .mapping [("a", .null)])]
    let ys : List (String × Literal) := [("b", .null), ("c", .string "x")]
    isFieldOnly head = true ∧ AgreeOn (fieldsOf head) xs ys ∧
      ∃ rule, ofParts head none "" = .ok rule ∧ ∀ clock, ∃ answer,
        rule.matchesRecord clock (.mapping xs) = .ok answer ∧
          rule.matchesRecord clock (.mapping ys) = .ok answer := by
  intro head xs ys
  have hfields : fieldsOf head = ["a", "c"] := by decide
  have hagree : AgreeOn (fieldsOf head) xs ys := by
    rw [hfields]
    exact List.forall_mem_cons.2 ⟨rfl, List.forall_mem_cons.2 ⟨rfl, List.forall_mem_nil _⟩⟩
  obtain ⟨rule, hrule, hhead, -⟩ := ofParts_eq_ok (show Plan.ofHead head = .ok (.fixed _) from rfl)
    none ""
  exact ⟨rfl, hagree, rule, hrule,
    (matchesRecord_unmentioned rfl ⟨_, rfl⟩ hagree).2 rfl rule hhead⟩

theorem isOk_ofParts_dotted {key : String} {entries : List (String × Literal)}
    (hkey : Operator.isOperatorKey key = false) (hne : entries ≠ [])
    (hentries : AreFields entries) (tail? : Option Literal) (name : String) :
    (ofParts (.mapping [(key, .mapping entries)]) tail? name).isOk =
      (ofParts (.mapping (dottedEntries key entries)) tail? name).isOk := by
  rw [isOk_ofParts, isOk_ofParts, Plan.ofHead, Plan.ofHead, occursIn_dotted hkey hentries]
  split
  · rw [checkOperators_dotted hkey hentries]
  · exact (isOk_bind_ok _ _).trans
      ((isOk_compile_dotted hkey hne hentries).trans (isOk_bind_ok _ _).symm)

/-- The entries of a head below a field may be written with dots behind the key of the field:
both heads compile or neither does, they match the same records, and so do rules with them,
also where the entries hold markers. -/
theorem matchesRecord_dotted {key : String} {entries : List (String × Literal)}
    (hkey : Operator.isOperatorKey key = false) (hne : entries ≠ [])
    (hentries : AreFields entries) :
    let nested : Literal := .mapping [(key, .mapping entries)]
    let dotted : Literal := .mapping (dottedEntries key entries)
    (compile nested).isOk = (compile dotted).isOk ∧
      (∀ now record, nested.matchesRecord now record = dotted.matchesRecord now record) ∧
      (∀ tail? name, (ofParts nested tail? name).isOk = (ofParts dotted tail? name).isOk) ∧
      ∀ rule rule' : Rule, rule.head = nested → rule'.head = dotted → rule.now? = rule'.now? →
        ∀ clock record, rule.matchesRecord clock record = rule'.matchesRecord clock record := by
  intro nested dotted
  refine ⟨isOk_compile_dotted hkey hne hentries, matchesRecord_nested hkey hne hentries,
    isOk_ofParts_dotted hkey hne hentries, fun rule rule' hrule hrule' hnow clock record => ?_⟩
  -- Markers are resolved entry by entry, so the resolved heads are again such a pair.
  have hresolved := hentries.substituted (target record)
  rw [matchesRecord_eq, matchesRecord_eq, hrule, hrule', hnow, dereference, dereference,
    (areFields_singleton hkey _).substitute_eq, (areFields_dottedEntries hkey).substitute_eq,
    dottedEntries, List.map_map, List.map_singleton, hentries.substitute_eq,
    matchesRecord_nested hkey (by simpa using hne) hresolved, dottedEntries, List.map_map]
  rfl

/-- A field of the elements of a sequence is compared with another field of the record. -/
theorem matchesRecord_dotted_elements :
    let entries : List (String × Literal) := [("0.sku", .mapping []),
      ("qty", .mapping [("$lte", .mapping [("$ref", .string "/most")])])]
    let nested : Literal := .mapping [("items", .mapping entries)]
    let dotted : Literal := .mapping [("items.0.sku", .mapping []),
      ("items.qty", .mapping [("$lte", .mapping [("$ref", .string "/most")])])]
    (∀ now record, nested.matchesRecord now record = dotted.matchesRecord now record) ∧
      ∃ rule rule', ofParts nested none "" = .ok rule ∧ ofParts dotted none "" = .ok rule' ∧
        ∀ now clock record, { rule with now? := some now }.matchesRecord clock record =
          { rule' with now? := some now }.matchesRecord clock record := by
  intro entries nested dotted
  have hentries : AreFields entries :=
    List.forall_mem_cons.2 ⟨rfl, List.forall_mem_cons.2 ⟨rfl, List.forall_mem_nil _⟩⟩
  have hdotted : .mapping (dottedEntries "items" entries) = dotted := rfl
  obtain ⟨-, hmatches, -, hrules⟩ :=
    matchesRecord_dotted (show Operator.isOperatorKey "items" = false from rfl)
      (List.cons_ne_nil _ _) hentries
  obtain ⟨rule, hrule, hhead, -⟩ :=
    ofParts_eq_ok (show Plan.ofHead nested = .ok .perRecord from rfl) none ""
  obtain ⟨rule', hrule', hhead', -⟩ :=
    ofParts_eq_ok (show Plan.ofHead dotted = .ok .perRecord from rfl) none ""
  exact ⟨hmatches, rule, rule', hrule, hrule', fun now clock record =>
    hrules { rule with now? := some now } { rule' with now? := some now } hhead hhead' rfl clock
      record⟩

end Rule

end RuleBook
