import RuleBook.Proofs.Reference.Filling
import RuleBook.Proofs.Rule.Addressing

/-!
# Comparisons with what leads nowhere

A marker that leads nowhere puts NaN into the operand it stands in, however deep.  Nothing
equals such an operand, and nothing lies before or after NaN, whatever the field selects.
-/

namespace RuleBook

open Literal

namespace Reference

/-- A target that is no pointer, or a pointer to nothing in the record. -/
def LeadsNowhere (record x : Literal) : Prop :=
  ∀ pointer, x = .string pointer → Pointer.resolve? record pointer.toList = none

variable {record operand x : Literal}

theorem LeadsNowhere.target_eq (h : LeadsNowhere record x) : target record x = .nan := by
  cases x with
  | string pointer => rw [target, h pointer rfl, Option.getD_none]
  | _ => rfl

mutual

theorem holdsNaN_substitute {resolve : Literal → Literal} {lost : Literal}
    (hnan : (resolve lost).holdsNaN = true) : ∀ {x : Literal}, lost ∈ targets x →
    (substitute resolve x).holdsNaN = true
  | .mapping entries, h => by
      rw [targets] at h
      cases hlookup : lookup markerKey entries with
      | some target =>
          rw [hlookup, List.mem_singleton] at h
          rw [substitute_marker hlookup, ← h, hnan]
      | none =>
          rw [hlookup] at h
          rw [substitute_mapping hlookup]
          exact entriesHoldNaN_substitute hnan h
  | .sequence items, h => by
      rw [substitute]
      exact itemsHoldNaN_substitute hnan h
  | .null, h => nomatch h
  | .bool _, h => nomatch h
  | .number _, h => nomatch h
  | .string _, h => nomatch h
  | .date _, h => nomatch h
  | .regex _, h => nomatch h
  | .binary _, h => nomatch h

theorem itemsHoldNaN_substitute {resolve : Literal → Literal} {lost : Literal}
    (hnan : (resolve lost).holdsNaN = true) : ∀ {items : List Literal},
    lost ∈ targetsOfItems items → itemsHoldNaN (substituteItems resolve items) = true
  | [], h => nomatch h
  | item :: items, h => by
      rw [substituteItems, itemsHoldNaN, Bool.or_eq_true]
      exact (List.mem_append.1 h).imp (holdsNaN_substitute hnan) (itemsHoldNaN_substitute hnan)

theorem entriesHoldNaN_substitute {resolve : Literal → Literal} {lost : Literal}
    (hnan : (resolve lost).holdsNaN = true) : ∀ {entries : List (String × Literal)},
    lost ∈ targetsOfEntries entries → entriesHoldNaN (substituteEntries resolve entries) = true
  | [], h => nomatch h
  | (key, value) :: entries, h => by
      rw [substituteEntries, entriesHoldNaN, Bool.or_eq_true]
      exact (List.mem_append.1 h).imp (holdsNaN_substitute hnan) (entriesHoldNaN_substitute hnan)

end

theorem holdsNaN_dereference (h : LeadsNowhere record x) (hx : x ∈ targets operand) :
    (dereference operand record).holdsNaN = true :=
  holdsNaN_substitute (by rw [h.target_eq]; rfl) hx

theorem dereference_eq_nan (h : LeadsNowhere record x) (hx : x ∈ targets operand)
    (hmarker : isMarker operand = true) : dereference operand record = .nan := by
  cases operand with
  | mapping entries =>
      obtain ⟨target, htarget⟩ := Option.isSome_iff_exists.1 hmarker
      rw [targets, htarget, List.mem_singleton] at hx
      rw [dereference, substitute_marker htarget, ← hx, h.target_eq]
  | _ => cases hmarker

end Reference

namespace Predicate

theorem equalTo_holds_of_holdsNaN {x : Literal} (h : x.holdsNaN = true) (now : Instant)
    (values : List Literal) : (equalTo x).holds now values = false := by
  rw [equalTo_holds]
  split
  · cases x with
    | null => cases h
    | _ => rfl
  · exact List.any_eq_false.2 fun value _ => by simp [equalOrMatch_eq_false h]

theorem order?_nan (value : Literal) : order? value .nan = none := by
  cases value with
  | number x => exact if_pos (Bool.or_true _)
  | _ => rfl

theorem compares_nan (comparison : Comparison) (now : Instant) (values : List Literal) :
    (Test.compares comparison .nan).holds now values = false :=
  Test.holds_of_accepts_eq_false rfl fun value => by rw [Test.accepts, order?_nan, Option.any_none]

end Predicate

def Comparison.operator : Comparison → Operator
  | .gt => .gt
  | .gte => .gte
  | .lt => .lt
  | .lte => .lte

namespace Rule

open Predicate Reference

section

variable {key : String} {operand record : Literal} {rule : Rule}
  (hkey : Operator.isOperatorKey key = false)

include hkey

theorem matchesRecord_bareHead (hrule : rule.head = .mapping [(key, operand)]) (clock : Instant)
    (record : Literal) :
    rule.matchesRecord clock record =
      (Literal.mapping [(key, dereference operand record)]).matchesRecord (rule.now?.getD clock)
        record := by
  rw [matchesRecord_eq, hrule, dereference, (areFields_singleton hkey _).substitute_eq]
  rfl

/-- Let a marker in an operand lead nowhere in a record.  Then no field equals the operand, and
every field differs from it.  If the operand is the marker itself, no field equals it where it
stands alone, and none lies to it in any order. -/
theorem matchesRecord_leadsNowhere {x : Literal} (hx : x ∈ targets operand)
    (hnowhere : LeadsNowhere record x) (clock : Instant) :
    (∀ rule : Rule, rule.head = fieldHead key .eq operand →
      rule.matchesRecord clock record = .ok false) ∧
    (∀ rule : Rule, rule.head = fieldHead key .ne operand →
      rule.matchesRecord clock record = .ok true) ∧
    (isMarker operand = true →
      (∀ rule : Rule, rule.head = .mapping [(key, operand)] →
        rule.matchesRecord clock record = .ok false) ∧
      ∀ (comparison : Comparison) (rule : Rule),
        rule.head = fieldHead key comparison.operator operand →
          rule.matchesRecord clock record = .ok false) := by
  have hnan := holdsNaN_dereference hnowhere hx
  refine ⟨fun rule hrule => ?_, fun rule hrule => ?_, fun hmarker =>
    ⟨fun rule hrule => ?_, fun comparison rule hrule => ?_⟩⟩
  · rw [matchesRecord_of_fieldHead hkey hrule, matchesRecord_fieldHead hkey (compile_eq _),
      equalTo_holds_of_holdsNaN hnan]
  · have hcompile : compile (operatorHead .ne (dereference operand record)) =
        .ok (.not (equalTo (dereference operand record))) := compile_operatorHead _ _
    rw [matchesRecord_of_fieldHead hkey hrule, matchesRecord_fieldHead hkey hcompile, holds,
      equalTo_holds_of_holdsNaN hnan]
    rfl
  · rw [matchesRecord_bareHead hkey hrule, dereference_eq_nan hnowhere hx hmarker,
      Literal.matchesRecord, compile, compileEntries, compileEntry_field hkey]
    exact congrArg Except.ok (equalTo_holds_of_holdsNaN rfl _ _)
  · have hcompile : compile (operatorHead comparison.operator .nan) =
        .ok (.test (.compares comparison .nan)) := by
      rw [compile_operatorHead]
      cases comparison <;> rfl
    rw [matchesRecord_of_fieldHead hkey hrule, dereference_eq_nan hnowhere hx hmarker,
      matchesRecord_fieldHead hkey hcompile, holds, compares_nan]

end

/-- A pointer that finds nothing, deep in an operand, and a marker whose target is no pointer,
for a field that holds NaN. -/
theorem matchesRecord_leadsNowhere_nested :
    let deep : Literal := .sequence [.null, .mapping [("b", marker "/x")]]
    let lone : Literal := .mapping [("$ref", .bool true)]
    let record : Literal := .mapping [("a", .sequence [.null, .mapping [("b", .nan)], .nan])]
    Operator.isOperatorKey "a" = false ∧ .string "/x" ∈ targets deep ∧ .bool true ∈ targets lone ∧
      LeadsNowhere record (.string "/x") ∧ LeadsNowhere record (.bool true) ∧
      isMarker lone = true ∧
      ∃ equal unequal bare less : Rule,
        ofParts (fieldHead "a" .eq deep) none "" = .ok equal ∧
        ofParts (fieldHead "a" .ne deep) none "" = .ok unequal ∧
        ofParts (.mapping [("a", lone)]) none "" = .ok bare ∧
        ofParts (fieldHead "a" .lt lone) none "" = .ok less ∧
        ∀ clock, equal.matchesRecord clock record = .ok false ∧
          unequal.matchesRecord clock record = .ok true ∧
          bare.matchesRecord clock record = .ok false ∧
          less.matchesRecord clock record = .ok false := by
  intro deep lone record
  have hkey : Operator.isOperatorKey "a" = false := rfl
  have hdeep : .string "/x" ∈ targets deep := List.mem_singleton_self (Literal.string "/x")
  have hlone : .bool true ∈ targets lone := List.mem_singleton_self (Literal.bool true)
  have hpointer : LeadsNowhere record (.string "/x") := by
    rintro _ ⟨⟩
    rfl
  have hother : LeadsNowhere record (.bool true) := nofun
  have hplan (head : Literal) (h : Plan.ofHead head = .ok .perRecord) :
      ∃ rule, ofParts head none "" = .ok rule ∧ rule.head = head := by
    obtain ⟨rule, hrule, hhead, -⟩ := ofParts_eq_ok h none ""
    exact ⟨rule, hrule, hhead⟩
  obtain ⟨equal, hequal, hequalHead⟩ := hplan (fieldHead "a" .eq deep) rfl
  obtain ⟨unequal, hunequal, hunequalHead⟩ := hplan (fieldHead "a" .ne deep) rfl
  obtain ⟨bare, hbare, hbareHead⟩ := hplan (.mapping [("a", lone)]) rfl
  obtain ⟨less, hless, hlessHead⟩ := hplan (fieldHead "a" .lt lone) rfl
  refine ⟨hkey, hdeep, hlone, hpointer, hother, rfl, equal, unequal, bare, less, hequal, hunequal,
    hbare, hless, fun clock => ?_⟩
  obtain ⟨heq, hne, -⟩ := matchesRecord_leadsNowhere hkey hdeep hpointer clock
  obtain ⟨-, -, hmarker⟩ := matchesRecord_leadsNowhere hkey hlone hother clock
  exact ⟨heq equal hequalHead, hne unequal hunequalHead, (hmarker rfl).1 bare hbareHead,
    (hmarker rfl).2 .lt less hlessHead⟩

end Rule

end RuleBook
