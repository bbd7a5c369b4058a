import RuleBook.Proofs.Rule.FieldHead

/-!
# Candidates one by one

A list of candidates asks for the same as one equality for each of them: to be among them is to
equal one, and not to be among them is to differ from each.  This holds of what a path selects,
and of rules, where candidates may be or hold markers.
-/

namespace RuleBook

open Literal Reference

private theorem any_any_comm {α β : Type} (f : α → β → Bool) (xs : List α) (ys : List β) :
    (xs.any fun x => ys.any (f x)) = ys.any fun y => xs.any (f · y) := by
  rw [Bool.eq_iff_iff]
  simp only [List.any_eq_true]
  constructor
  · rintro ⟨x, hx, y, hy, h⟩
    exact ⟨y, hy, x, hx, h⟩
  · rintro ⟨y, hy, x, hx, h⟩
    exact ⟨x, hx, y, hy, h⟩

namespace Predicate

theorem isIn_holds (candidates : List Literal) (now : Instant) (values : List Literal) :
    (Test.isIn candidates).holds now values =
      candidates.any fun x => (equalTo x).holds now values := by
  rw [Test.holds_eq]
  simp only [equalTo_holds]
  split
  · rfl
  · exact any_any_comm _ _ _

theorem compileItems_map {f : Literal → Literal} {g : Literal → Predicate}
    (h : ∀ x, compile (f x) = .ok (g x)) (items : List Literal) :
    compileItems (items.map f) = .ok (items.map g) := by
  induction items with
  | nil => rfl
  | cons item items ih =>
      rw [List.map_cons, compileItems, h, ih]
      rfl

section

variable (candidates : List Literal)

theorem compile_isIn : compile (operatorHead .isIn (.sequence candidates)) =
    .ok (.test (.isIn candidates)) :=
  compile_operatorHead _ _

theorem compile_notIn : compile (operatorHead .notIn (.sequence candidates)) =
    .ok (.not (.test (.isIn candidates))) :=
  compile_operatorHead _ _

theorem compile_or_eq : compile (operatorHead .or (.sequence (candidates.map (operatorHead .eq)))) =
    .ok (.or (candidates.map equalTo)) := by
  rw [compile_operatorHead, compileOperator, compileOperands,
    compileItems_map fun x => compile_operatorHead .eq x]
  rfl

theorem compile_and_ne :
    compile (operatorHead .and (.sequence (candidates.map (operatorHead .ne)))) =
      .ok (.and (candidates.map fun x => .not (equalTo x))) := by
  rw [compile_operatorHead, compileOperator, compileOperands,
    compileItems_map fun x => compile_operatorHead .ne x]
  rfl

theorem matchesRecord_isIn {key : String} (hkey : Operator.isOperatorKey key = false)
    (now : Instant) (record : Literal) :
    ∃ answer,
      (fieldHead key .isIn (.sequence candidates)).matchesRecord now record = .ok answer ∧
      (fieldHead key .or (.sequence (candidates.map (operatorHead .eq)))).matchesRecord now record =
        .ok answer ∧
      (fieldHead key .notIn (.sequence candidates)).matchesRecord now record = .ok !answer ∧
      (fieldHead key .and (.sequence (candidates.map (operatorHead .ne)))).matchesRecord now
        record = .ok !answer := by
  let values := FieldPath.select (pathOfKey key) [record]
  refine ⟨candidates.any fun x => (equalTo x).holds now values, ?_, ?_, ?_, ?_⟩
  · rw [matchesRecord_fieldHead hkey (compile_isIn candidates), holds, isIn_holds]
  · rw [matchesRecord_fieldHead hkey (compile_or_eq candidates), holds, anyHolds_eq_any,
      List.any_map]
    rfl
  · rw [matchesRecord_fieldHead hkey (compile_notIn candidates), holds, holds, isIn_holds]
  · rw [matchesRecord_fieldHead hkey (compile_and_ne candidates), holds, allHold_eq_all,
      List.all_map, List.not_any_eq_all_not]
    simp only [Function.comp_def, holds, values]

end

section

variable (operator : Operator) (items : List Literal)

theorem occursIn_map_operatorHead :
    occursIn (.sequence (items.map (operatorHead operator))) = occursIn (.sequence items) := by
  rw [occursIn, occursIn, occursInItems_eq_any, occursInItems_eq_any, List.any_map]
  exact congrArg items.any (funext fun item => occursIn_operatorHead operator item)

theorem unknownKeys_map_operatorHead :
    unknownKeys (.sequence (items.map (operatorHead operator))) =
      unknownKeys (.sequence items) := by
  rw [unknownKeys, unknownKeys, unknownKeysOfItems_eq_flatMap, unknownKeysOfItems_eq_flatMap,
    List.flatMap_map, funext fun item => unknownKeys_operatorHead operator item]

theorem dereference_map_operatorHead (record : Literal) :
    dereference (.sequence (items.map (operatorHead operator))) record =
      .sequence ((items.map (dereference · record)).map (operatorHead operator)) := by
  rw [dereference, substitute, substituteItems_eq_map, List.map_map, List.map_map]
  exact congrArg Literal.sequence
    (List.map_congr_left fun item _ => substitute_operatorHead operator item _)

theorem dereference_sequence (record : Literal) :
    dereference (.sequence items) record = .sequence (items.map (dereference · record)) := by
  rw [dereference, substitute, substituteItems_eq_map]
  rfl

end

end Predicate

namespace Rule

open Predicate

/-- Two operators that answer alike, one asked with all candidates and one with a head for each
of them, give rules that answer alike. -/
private theorem rules_alike {key : String} {whole each inner : Operator}
    (hkey : Operator.isOperatorKey key = false)
    (halike : ∀ candidates now record, ∃ answer,
      (fieldHead key whole (.sequence candidates)).matchesRecord now record = .ok answer ∧
      (fieldHead key each (.sequence (candidates.map (operatorHead inner)))).matchesRecord now
        record = .ok answer)
    (candidates : List Literal)
    (hcompile : (compile (operatorHead whole (.sequence candidates))).isOk =
      (compile (operatorHead each (.sequence (candidates.map (operatorHead inner))))).isOk) :
    let head := fieldHead key whole (.sequence candidates)
    let head' := fieldHead key each (.sequence (candidates.map (operatorHead inner)))
    (∀ tail? name, (ofParts head tail? name).isOk = (ofParts head' tail? name).isOk) ∧
    ∀ rule rule' : Rule, rule.head = head → rule'.head = head' → rule.now? = rule'.now? →
      ∀ clock record, ∃ answer, rule.matchesRecord clock record = .ok answer ∧
        rule'.matchesRecord clock record = .ok answer := by
  refine ⟨fun tail? name => ?_, fun rule rule' hrule hrule' hnow clock record => ?_⟩
  · rw [isOk_ofParts_fieldHead hkey, isOk_ofParts_fieldHead hkey, occursIn_map_operatorHead,
      unknownKeys_map_operatorHead, hcompile]
  · rw [matchesRecord_of_fieldHead hkey hrule, matchesRecord_of_fieldHead hkey hrule', hnow,
      dereference_sequence, dereference_map_operatorHead]
    exact halike _ _ _

/-- To be among candidates is to equal one of them, and not to be among them is to differ from
each: the heads that say it in one list and in one head for each candidate give the same answer,
and so do rules with them, also where candidates hold markers. -/
theorem matchesRecord_candidates {key : String} (hkey : Operator.isOperatorKey key = false)
    (candidates : List Literal) :
    let oneOf := fieldHead key .isIn (.sequence candidates)
    let someEqual := fieldHead key .or (.sequence (candidates.map (operatorHead .eq)))
    let noneOf := fieldHead key .notIn (.sequence candidates)
    let allUnequal := fieldHead key .and (.sequence (candidates.map (operatorHead .ne)))
    (∀ now record, ∃ answer,
      oneOf.matchesRecord now record = .ok answer ∧
      someEqual.matchesRecord now record = .ok answer ∧
      noneOf.matchesRecord now record = .ok !answer ∧
      allUnequal.matchesRecord now record = .ok !answer) ∧
    ∀ head head', head = oneOf ∧ head' = someEqual ∨ head = noneOf ∧ head' = allUnequal →
      (∀ tail? name, (ofParts head tail? name).isOk = (ofParts head' tail? name).isOk) ∧
      ∀ rule rule' : Rule, rule.head = head → rule'.head = head' → rule.now? = rule'.now? →
        ∀ clock record, ∃ answer, rule.matchesRecord clock record = .ok answer ∧
          rule'.matchesRecord clock record = .ok answer := by
  refine ⟨matchesRecord_isIn candidates hkey, ?_⟩
  rintro _ _ (⟨rfl, rfl⟩ | ⟨rfl, rfl⟩)
  · refine rules_alike hkey (fun xs now record => ?_) candidates
      (by rw [compile_isIn, compile_or_eq]; rfl)
    obtain ⟨answer, hisIn, hor, -, -⟩ := matchesRecord_isIn xs hkey now record
    exact ⟨answer, hisIn, hor⟩
  · refine rules_alike hkey (fun xs now record => ?_) candidates
      (by rw [compile_notIn, compile_and_ne]; rfl)
    obtain ⟨answer, -, -, hnotIn, hand⟩ := matchesRecord_isIn xs hkey now record
    exact ⟨!answer, hnotIn, hand⟩

/-- Null among the candidates of a field that is not there, NaN, a sequence, and a marker. -/
theorem matchesRecord_candidates_marker :
    let candidates : List Literal :=
      [.null, .nan, .sequence [.bool true], .mapping [("$ref", .string "/b")]]
    let head := fieldHead "a.c" .isIn (.sequence candidates)
    let head' := fieldHead "a.c" .or (.sequence (candidates.map (operatorHead .eq)))
    Operator.isOperatorKey "a.c" = false ∧
      (∀ now record, ∃ answer, head.matchesRecord now record = .ok answer ∧
        head'.matchesRecord now record = .ok answer) ∧
      ∃ rule rule', ofParts head none "" = .ok rule ∧ ofParts head' none "" = .ok rule' ∧
        ∀ now clock record, ∃ answer,
          { rule with now? := some now }.matchesRecord clock record = .ok answer ∧
          { rule' with now? := some now }.matchesRecord clock record = .ok answer := by
  intro candidates head head'
  obtain ⟨hheads, hrules⟩ := matchesRecord_candidates (show Operator.isOperatorKey "a.c" = false
    from rfl) candidates
  obtain ⟨rule, hrule, hhead, -⟩ :=
    ofParts_eq_ok (show Plan.ofHead head = .ok .perRecord from rfl) none ""
  obtain ⟨rule', hrule', hhead', -⟩ :=
    ofParts_eq_ok (show Plan.ofHead head' = .ok .perRecord from rfl) none ""
  refine ⟨rfl, fun now record => ?_, rule, rule', hrule, hrule', fun now clock record => ?_⟩
  · obtain ⟨answer, hisIn, hor, -, -⟩ := hheads now record
    exact ⟨answer, hisIn, hor⟩
  · exact (hrules head head' (.inl ⟨rfl, rfl⟩)).2 { rule with now? := some now }
      { rule' with now? := some now } hhead hhead' rfl clock record

end Rule

end RuleBook
