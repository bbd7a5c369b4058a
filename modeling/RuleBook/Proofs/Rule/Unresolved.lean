import RuleBook.Proofs.Matching.Unresolved
import RuleBook.Proofs.Rule.Plan

/-!
# Rules with references that lead nowhere

A rule whose markers lead nowhere in a record is still asked of that record, with NaN for
each marker.  It fails where NaN is no operand at all, and nowhere else.
-/

namespace RuleBook.Rule

open Reference

/-- Let a head compile with some values in the place of its markers.  Where all markers lead
nowhere, matching gives an answer if and only if no marker stands where NaN is refused. -/
theorem matchesRecord_unresolved_iff {rule : Rule} {record : Literal}
    (hcompiles : ∃ filled, Fills rule.head filled ∧ ∃ p, Predicate.compile filled = .ok p)
    (hunresolved : ∀ pointer, .string pointer ∈ targets rule.head →
      Pointer.resolve? record pointer.toList = none) (clock : Instant) :
    (∃ matched, rule.matchesRecord clock record = .ok matched) ↔
      Predicate.needsValue rule.head = false := by
  obtain ⟨filled, hfills, hfilled⟩ := hcompiles
  have hblank := Predicate.isOk_compile_blank hfills (isOk_iff_exists.2 hfilled)
  have hmatches : (rule.matchesRecord clock record).isOk =
      (Predicate.compile (blank rule.head)).isOk := by
    rw [matchesRecord_eq, dereference_eq_blank hunresolved]
    exact isOk_bind_ok _ _
  rw [← isOk_iff_exists, hmatches, hblank, Bool.not_eq_true']

/-- A list of candidates that is not found makes matching fail. -/
theorem matchesRecord_unresolved_iff_candidates :
    let head : Literal :=
      .mapping [("a", .mapping [("$in", .mapping [("$ref", .string "/x")])])]
    let record : Literal := .mapping [("a", .bool true)]
    ∃ rule, ofParts head none "" = .ok rule ∧
      (∃ filled, Fills head filled ∧ ∃ p, Predicate.compile filled = .ok p) ∧
      (∀ pointer, .string pointer ∈ targets head →
        Pointer.resolve? record pointer.toList = none) ∧
      ∀ clock, ¬∃ matched, rule.matchesRecord clock record = .ok matched := by
  intro head record
  obtain ⟨rule, hrule, hhead, -⟩ :=
    ofParts_eq_ok (show Plan.ofHead head = .ok .perRecord from rfl) none ""
  have hmarker : Fills (.mapping [("$ref", .string "/x")]) (.sequence []) := .inl rfl
  have hoperand : Fills (.mapping [("$in", .mapping [("$ref", .string "/x")])])
      (.mapping [("$in", .sequence [])]) := .inr ⟨_, rfl, _, _, rfl, hmarker, rfl⟩
  have hfills : Fills head (.mapping [("a", .mapping [("$in", .sequence [])])]) :=
    .inr ⟨_, rfl, _, _, rfl, hoperand, rfl⟩
  have hcompiles : ∃ filled, Fills head filled ∧ ∃ p, Predicate.compile filled = .ok p :=
    ⟨_, hfills, _, rfl⟩
  have hunresolved : ∀ pointer, .string pointer ∈ targets head →
      Pointer.resolve? record pointer.toList = none := by
    intro pointer hpointer
    have htargets : targets head = [.string "/x"] := rfl
    rw [htargets, List.mem_singleton] at hpointer
    cases hpointer
    rfl
  refine ⟨rule, hrule, hcompiles, hunresolved, fun clock hmatched => ?_⟩
  have hneeds := (@matchesRecord_unresolved_iff rule record (by rwa [hhead])
    (by rwa [hhead]) clock).1 hmatched
  rw [hhead] at hneeds
  have hrefuses : Predicate.needsValue head = true := rfl
  exact Bool.noConfusion (hneeds.symm.trans hrefuses)

end RuleBook.Rule
