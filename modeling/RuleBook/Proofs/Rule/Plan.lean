import RuleBook.Proofs.Outcome
import RuleBook.Proofs.Reference.Substitution
import RuleBook.Rule.Basic

/-!
# The plan of a rule

A head without markers is compiled when the rule is built, any other one for each record.
Resolving the markers of a head that has none changes nothing, so both plans come to the
same: the head is dereferenced in the record, compiled, and asked.
-/

namespace RuleBook.Rule

open Text

section

variable {head : Literal} {tail? : Option Literal} {name : String} {rule : Rule}

theorem ofParts_eq_ok {plan : Plan} (h : Plan.ofHead head = .ok plan) (tail? : Option Literal)
    (name : String) :
    ∃ again, ofParts head tail? name = .ok again ∧ again.head = head ∧
      again.tail = tail?.getD (.bool true) ∧ again.name = String.ofList (trim name.toList) := by
  unfold ofParts
  split
  · exact ⟨_, rfl, rfl, rfl, rfl⟩
  · next heq =>
    rw [h] at heq
    cases heq

theorem ofParts_inv (h : ofParts head tail? name = .ok rule) :
    rule.head = head ∧ rule.tail = tail?.getD (.bool true) := by
  unfold ofParts at h
  split at h
  · cases h
    exact ⟨rfl, rfl⟩
  · cases h

theorem isOk_ofParts : (ofParts head tail? name).isOk = (Plan.ofHead head).isOk := by
  unfold ofParts
  split <;> simp_all [Except.isOk, Except.toBool]

end

theorem plan_of_occursIn {rule : Rule} (h : Reference.occursIn rule.head = true) :
    rule.plan = .perRecord := by
  have hplanned := rule.planned
  rw [Plan.ofHead, if_pos h] at hplanned
  obtain ⟨_, -, hplan⟩ := bind_eq_ok hplanned
  exact (Except.ok.inj hplan).symm

theorem plan_of_not_occursIn {rule : Rule} (h : Reference.occursIn rule.head = false) :
    ∃ p, Predicate.compile rule.head = .ok p ∧ rule.plan = .fixed p := by
  have hplanned := rule.planned
  rw [Plan.ofHead, if_neg (by simp [h])] at hplanned
  obtain ⟨p, hcompile, hplan⟩ := bind_eq_ok hplanned
  exact ⟨p, hcompile, (Except.ok.inj hplan).symm⟩

theorem predicate_eq (rule : Rule) (record : Literal) :
    rule.predicate record = Predicate.compile (Reference.dereference rule.head record) := by
  cases h : Reference.occursIn rule.head with
  | false =>
      obtain ⟨p, hcompile, hplan⟩ := plan_of_not_occursIn h
      rw [predicate, hplan, Reference.dereference, Reference.substitute_of_not_occursIn h, hcompile]
  | true => rw [predicate, plan_of_occursIn h]

theorem matchesRecord_eq (rule : Rule) (clock : Instant) (record : Literal) :
    rule.matchesRecord clock record =
      (Reference.dereference rule.head record).matchesRecord (rule.now?.getD clock) record := by
  rw [matchesRecord, predicate_eq, Literal.matchesRecord]

/-- Matching a rule is resolving its markers in the record and matching the head that this
gives.  A head without markers is left as it is, and one resolved in a record without
markers has none, so that resolving it again changes nothing. -/
theorem matchesRecord_dereference (head record : Literal) :
    (∀ tail? name rule, ofParts head tail? name = .ok rule → ∀ now clock,
      { rule with now? := some now }.matchesRecord clock record =
        (Reference.dereference head record).matchesRecord now record) ∧
    (Reference.occursIn head = false → Reference.dereference head record = head) ∧
    (Reference.occursIn record = false →
      Reference.occursIn (Reference.dereference head record) = false ∧
      ∀ other, Reference.dereference (Reference.dereference head record) other =
        Reference.dereference head record) := by
  refine ⟨fun tail? name rule h now clock => ?_, Reference.substitute_of_not_occursIn,
    fun h => ?_⟩
  · obtain ⟨rfl, -⟩ := ofParts_inv h
    exact matchesRecord_eq _ clock record
  · have hresolved : Reference.occursIn (Reference.dereference head record) = false :=
      Reference.occursIn_substitute (Reference.occursIn_target h) head
    exact ⟨hresolved, fun _ => Reference.substitute_of_not_occursIn hresolved⟩

/-- Two fields of one record are compared; the record is itself a head without markers. -/
theorem matchesRecord_dereference_fields :
    let head : Literal :=
      .mapping [("max", .mapping [("$gte", .mapping [("$ref", .string "/min")])])]
    let record : Literal := .mapping [("min", .string "a"), ("max", .string "b")]
    ∃ rule, ofParts head none "" = .ok rule ∧
      (∀ now clock, { rule with now? := some now }.matchesRecord clock record =
        (Reference.dereference head record).matchesRecord now record) ∧
      Reference.occursIn record = false ∧ Reference.dereference record record = record ∧
      Reference.occursIn (Reference.dereference head record) = false ∧
      ∀ other, Reference.dereference (Reference.dereference head record) other =
        Reference.dereference head record := by
  intro head record
  obtain ⟨rule, hrule, -⟩ := ofParts_eq_ok (show Plan.ofHead head = .ok .perRecord from rfl) none ""
  have hrecord : Reference.occursIn record = false := by decide
  exact ⟨rule, hrule, (matchesRecord_dereference head record).1 none "" rule hrule, hrecord,
    (matchesRecord_dereference record record).2.1 hrecord,
    (matchesRecord_dereference head record).2.2 hrecord⟩

end RuleBook.Rule
