import RuleBook.Proofs.Instant.Shift
import RuleBook.Proofs.Matching.Values
import RuleBook.Proofs.Number.Truncation

/-!
# Ages that reach further

A relative age is measured back from now.  What is newer than one age is newer than every longer
one, and what is older than one age is older than every shorter one, as long as the calendar
reaches the instant that the other age is measured to.  Where it does not, nothing is newer or
older.
-/

namespace RuleBook

def Age.operator : Age → Operator
  | .olderThan => .olderThan
  | .newerThan => .newerThan

/-- What lies past the limit of one cut-off lies past that of the other, where both have one. -/
def Age.Widens (direction : Age) (now : Instant) (cutoff cutoff' : Cutoff) : Prop :=
  ∀ limit limit', cutoff.instant? now = some limit → cutoff'.instant? now = some limit' →
    ∀ t, direction.accepts t limit = true → direction.accepts t limit' = true

section

variable {milliseconds more : Int}

theorem Age.widens_newerThan (h : milliseconds ≤ more) (now : Instant) :
    Age.newerThan.Widens now (.relative milliseconds) (.relative more) := by
  intro limit limit' hlimit hlimit' t
  have hcompare := Instant.compare_of_shift? hlimit' hlimit (Int.neg_le_neg h) t
  simpa only [Age.accepts, beq_iff_eq] using hcompare.1

theorem Age.widens_olderThan (h : milliseconds ≤ more) (now : Instant) :
    Age.olderThan.Widens now (.relative more) (.relative milliseconds) := by
  intro limit limit' hlimit hlimit' t
  have hcompare := Instant.compare_of_shift? hlimit hlimit' (Int.neg_le_neg h) t
  simpa only [Age.accepts, beq_iff_eq] using hcompare.2

end

namespace Test

theorem age_holds {direction : Age} {cutoff cutoff' : Cutoff} {now : Instant}
    {values : List Literal} (hwidens : direction.Widens now cutoff cutoff')
    (h : (age direction cutoff).holds now values = true) :
    (age direction cutoff').holds now values = (cutoff'.instant? now).isSome := by
  cases hlimit' : cutoff'.instant? now with
  | none =>
      refine holds_of_accepts_eq_false rfl fun value => ?_
      rw [accepts, hlimit']
      cases instantOf? value <;> rfl
  | some limit' =>
      refine holds_of_accepts (fun h => by cases h) (fun value haccepts => ?_) h
      rw [accepts] at haccepts ⊢
      split at haccepts
      · next t limit ht hlimit =>
        rw [ht, hlimit']
        exact hwidens limit limit' hlimit hlimit' t haccepts
      · cases haccepts

end Test

namespace Predicate

section

variable {direction : Age} {operand : Literal} {cutoff : Cutoff}

theorem compile_age : compile (operatorHead direction.operator operand) =
    Operand.cutoff direction.operator operand >>= fun cutoff =>
      .ok (.test (.age direction cutoff)) := by
  rw [compile_operatorHead]
  cases direction with
  | olderThan =>
      rw [Age.operator]
      change (Operand.cutoff .olderThan operand >>= _) >>= _ = _
      cases Operand.cutoff .olderThan operand <;> rfl
  | newerThan =>
      rw [Age.operator]
      change (Operand.cutoff .newerThan operand >>= _) >>= _ = _
      cases Operand.cutoff .newerThan operand <;> rfl

theorem isOk_cutoff (operator : Operator) :
    (Operand.cutoff operator operand).isOk = (Operand.cutoff? operand).isSome := by
  rw [Operand.cutoff]
  cases Operand.cutoff? operand <;> rfl

variable {key : String} (hkey : Operator.isOperatorKey key = false)

include hkey

theorem isOk_compile_ageHead : (compile (fieldHead key direction.operator operand)).isOk =
    (Operand.cutoff? operand).isSome := by
  rw [isOk_compile_fieldHead hkey, compile_age, isOk_bind_ok, isOk_cutoff]

theorem matchesRecord_ageHead (h : Operand.cutoff? operand = some cutoff) (now : Instant)
    (record : Literal) :
    (fieldHead key direction.operator operand).matchesRecord now record =
      .ok ((Test.age direction cutoff).holds now (FieldPath.select (pathOfKey key) [record])) := by
  have hcompile : compile (operatorHead direction.operator operand) =
      .ok (.test (.age direction cutoff)) := by
    rw [compile_age, Operand.cutoff, h]
    rfl
  rw [matchesRecord_fieldHead hkey hcompile, holds]

theorem matchesRecord_of_widens {operand' : Literal} {cutoff' : Cutoff} {now : Instant}
    (hwidens : direction.Widens now cutoff cutoff')
    (hcutoff : Operand.cutoff? operand = some cutoff)
    (hcutoff' : Operand.cutoff? operand' = some cutoff') (record : Literal)
    (h : (fieldHead key direction.operator operand).matchesRecord now record = .ok true) :
    (fieldHead key direction.operator operand').matchesRecord now record =
      .ok (cutoff'.instant? now).isSome := by
  rw [matchesRecord_ageHead hkey hcutoff, Except.ok.injEq] at h
  rw [matchesRecord_ageHead hkey hcutoff', Test.age_holds hwidens h]

end

theorem cutoff?_number_inv {d : Float} {cutoff : Cutoff}
    (h : Operand.cutoff? (.number d) = some cutoff) :
    Number.isFinite d = true ∧ cutoff = .relative (Number.toInt64 d) := by
  rw [Operand.cutoff?, Operand.relative?] at h
  split_ifs at h with hfinite hrange
  cases h
  exact ⟨hfinite, rfl⟩

/-- Of two ages in milliseconds that are accepted, what is newer than the smaller one is newer
than the larger one if the calendar holds the instant of the larger one, and not otherwise.  What
is older than the larger one is older than the smaller one if the calendar holds the instant of
that one, and not otherwise. -/
theorem matchesRecord_age {key : String} (hkey : Operator.isOperatorKey key = false)
    {d d' : Float} (hle : Number.orderKey d ≤ Number.orderKey d')
    (hd : ∀ direction : Age, (compile (fieldHead key direction.operator (.number d))).isOk = true)
    (hd' : ∀ direction : Age,
      (compile (fieldHead key direction.operator (.number d'))).isOk = true)
    (now : Instant) (record : Literal) :
    ((fieldHead key .newerThan (.number d)).matchesRecord now record = .ok true →
      (fieldHead key .newerThan (.number d')).matchesRecord now record =
        .ok (now.shift? (-Number.toInt64 d')).isSome) ∧
    ((fieldHead key .olderThan (.number d')).matchesRecord now record = .ok true →
      (fieldHead key .olderThan (.number d)).matchesRecord now record =
        .ok (now.shift? (-Number.toInt64 d)).isSome) := by
  obtain ⟨cutoff, hcutoff⟩ := Option.isSome_iff_exists.1
    ((isOk_compile_ageHead hkey).symm.trans (hd .newerThan))
  obtain ⟨cutoff', hcutoff'⟩ := Option.isSome_iff_exists.1
    ((isOk_compile_ageHead hkey).symm.trans (hd' .newerThan))
  obtain ⟨hfinite, rfl⟩ := cutoff?_number_inv hcutoff
  obtain ⟨hfinite', rfl⟩ := cutoff?_number_inv hcutoff'
  have hless : Number.toInt64 d ≤ Number.toInt64 d' := Number.toInt64_mono hfinite hfinite' hle
  have hnewer :=
    matchesRecord_of_widens hkey (Age.widens_newerThan hless now) hcutoff hcutoff' record
  have holder :=
    matchesRecord_of_widens hkey (Age.widens_olderThan hless now) hcutoff' hcutoff record
  exact ⟨hnewer, holder⟩

/-- Ages of a second, of two days, and of more years than the calendar has, before and after. -/
theorem matchesRecord_age_beyond :
    let newerThan (n : Int) := fieldHead "a" .newerThan (.number (Number.ofInt n))
    let olderThan (n : Int) := fieldHead "a" .olderThan (.number (Number.ofInt n))
    let now : Instant := ⟨1578614400, 0, by decide⟩
    let today : Literal := .mapping [("a", .date now)]
    let yesterday : Literal := .mapping [("a", .date ⟨1578528000, 0, by decide⟩)]
    Operator.isOperatorKey "a" = false ∧
      Number.orderKey (Number.ofInt 1000) ≤ Number.orderKey (Number.ofInt 172800000) ∧
      Number.orderKey (Number.ofInt 1000) ≤ Number.orderKey (Number.ofInt 9000000000000000) ∧
      Number.orderKey (Number.ofInt (-9000000000000000)) ≤ Number.orderKey (Number.ofInt 1000) ∧
      (newerThan 1000).matchesRecord now today = .ok true ∧
      (newerThan 172800000).matchesRecord now today = .ok true ∧
      (newerThan 9000000000000000).matchesRecord now today = .ok false ∧
      (olderThan 1000).matchesRecord now yesterday = .ok true ∧
      (olderThan (-9000000000000000)).matchesRecord now yesterday = .ok false := by
  intro newerThan olderThan now today yesterday
  have haccepted (n : Int) (h : (Operand.cutoff? (.number (Number.ofInt n))).isSome = true)
      (direction : Age) :
      (compile (fieldHead "a" direction.operator (.number (Number.ofInt n)))).isOk = true :=
    (isOk_compile_ageHead rfl).trans h
  have hsecond := haccepted 1000 (by decide)
  have hdays := haccepted 172800000 (by decide)
  have hafter := haccepted 9000000000000000 (by decide)
  have hbefore := haccepted (-9000000000000000) (by decide)
  have hnewer : (newerThan 1000).matchesRecord now today = .ok true := by rfl
  have holder : (olderThan 1000).matchesRecord now yesterday = .ok true := by rfl
  refine ⟨rfl, by decide, by decide, by decide, hnewer, ?_, ?_, holder, ?_⟩
  · exact ((matchesRecord_age rfl (by decide) hsecond hdays now today).1 hnewer).trans (by rfl)
  · exact ((matchesRecord_age rfl (by decide) hsecond hafter now today).1 hnewer).trans (by rfl)
  · exact ((matchesRecord_age rfl (by decide) hbefore hsecond now yesterday).2 holder).trans
      (by rfl)

end Predicate

end RuleBook
