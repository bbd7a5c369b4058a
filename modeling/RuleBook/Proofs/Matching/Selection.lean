import RuleBook.Proofs.Matching.Reordering

/-!
# What predicates see of a selection

A predicate is asked of all the values that a path selects.  It sees which values they are, and
neither their order nor how often each of them was selected.  Further values make no predicate
false but negations and those that hold where nothing is selected.
-/

namespace RuleBook

section

variable {vs ws : List Literal}

theorem any_of_subset {f : Literal → Bool} (h : vs ⊆ ws) (hvs : vs.any f = true) :
    ws.any f = true := by
  obtain ⟨v, hv, hf⟩ := List.any_eq_true.1 hvs
  exact List.any_eq_true.2 ⟨v, h hv, hf⟩

theorem any_eq_of_mem_iff {f : Literal → Bool} (h : ∀ v, v ∈ vs ↔ v ∈ ws) :
    vs.any f = ws.any f :=
  Bool.eq_iff_iff.2
    ⟨any_of_subset fun v => (h v).1, any_of_subset fun v => (h v).2⟩

theorem isEmpty_of_subset (h : vs ⊆ ws) (hws : ws.isEmpty = true) : vs.isEmpty = true := by
  rw [List.isEmpty_iff] at hws ⊢
  exact List.subset_nil.1 (hws ▸ h)

theorem isEmpty_eq_of_mem_iff (h : ∀ v, v ∈ vs ↔ v ∈ ws) : vs.isEmpty = ws.isEmpty :=
  Bool.eq_iff_iff.2
    ⟨isEmpty_of_subset fun v => (h v).2, isEmpty_of_subset fun v => (h v).1⟩

namespace FieldPath

theorem select_subset (path : List String) (h : vs ⊆ ws) : select path vs ⊆ select path ws := by
  induction path generalizing vs ws with
  | nil => exact h
  | cons segment path ih =>
      refine ih fun found hfound => ?_
      obtain ⟨v, hv, hstep⟩ := List.mem_flatMap.1 hfound
      exact List.mem_flatMap.2 ⟨v, h hv, hstep⟩

theorem mem_select_iff (path : List String) (h : ∀ v, v ∈ vs ↔ v ∈ ws) (v : Literal) :
    v ∈ select path vs ↔ v ∈ select path ws :=
  ⟨fun hv => select_subset path (fun w => (h w).1) hv,
    fun hv => select_subset path (fun w => (h w).2) hv⟩

end FieldPath

end

namespace Predicate

section

variable {p : Predicate} {now : Instant} {vs ws : List Literal}

theorem holds_of_mem_iff (h : ∀ v, v ∈ vs ↔ v ∈ ws) : p.holds now vs = p.holds now ws := by
  induction p using inductionOnParts generalizing vs ws with
  | test t =>
      rw [holds, holds, Test.holds, Test.holds, isEmpty_eq_of_mem_iff h, any_eq_of_mem_iff h]
  | and ps ih => exact allHold_congr fun p hp => ih p hp h
  | or ps ih => exact anyHolds_congr fun p hp => ih p hp h
  | nor ps ih => rw [holds, holds, anyHolds_congr fun p hp => ih p hp h]
  | not inner ih => rw [holds, holds, ih h]
  | field path inner ih => exact ih (FieldPath.mem_select_iff path h)
  | presence expected => rw [holds, holds, isEmpty_eq_of_mem_iff h]
  | all expected => exact any_eq_of_mem_iff h
  | size n => exact any_eq_of_mem_iff h
  | elemMatch inner _ => exact any_eq_of_mem_iff h

end

mutual

/-- Whether a predicate holds no negation at any depth, and no test that holds where nothing is
selected. -/
def isPositive : Predicate → Bool
  | .test (.equals expected) => !expected.isNull
  | .test (.isIn candidates) => !candidates.any Literal.isNull
  | .test _ => true
  | .and ps => arePositive ps
  | .or ps => arePositive ps
  | .nor _ => false
  | .not _ => false
  | .field _ inner => inner.isPositive
  | .exists expected => expected
  | .all _ => true
  | .size _ => true
  | .elemMatch inner => inner.isPositive

def arePositive : List Predicate → Bool
  | [] => true
  | p :: ps => p.isPositive && arePositive ps

end

theorem arePositive_iff {ps : List Predicate} :
    arePositive ps = true ↔ ∀ p ∈ ps, p.isPositive = true := by
  induction ps with
  | nil => simp [arePositive]
  | cons p ps ih => rw [arePositive, Bool.and_eq_true, ih, List.forall_mem_cons]

theorem acceptsUndefined_of_isPositive {t : Test} (h : (test t).isPositive = true) :
    t.acceptsUndefined = false := by
  cases t with
  | equals expected => exact Bool.not_eq_eq_eq_not.1 h
  | isIn candidates => exact Bool.not_eq_eq_eq_not.1 h
  | _ => rfl

section

variable {p : Predicate} {now : Instant} {vs ws : List Literal}

theorem holds_of_subset (hpositive : p.isPositive = true) (h : vs ⊆ ws)
    (hvs : p.holds now vs = true) : p.holds now ws = true := by
  induction p using inductionOnParts generalizing vs ws with
  | test t =>
      rw [holds, Test.holds, acceptsUndefined_of_isPositive hpositive] at hvs
      rw [holds, Test.holds, acceptsUndefined_of_isPositive hpositive]
      split at hvs
      · cases hvs
      · next hne =>
        rw [if_neg (mt (isEmpty_of_subset h) hne)]
        exact any_of_subset h hvs
  | and ps ih =>
      rw [holds, allHold_eq_all, List.all_eq_true] at hvs ⊢
      exact fun p hp => ih p hp (arePositive_iff.1 hpositive p hp) h (hvs p hp)
  | or ps ih =>
      rw [holds, anyHolds_eq_any, List.any_eq_true] at hvs ⊢
      obtain ⟨p, hp, hholds⟩ := hvs
      exact ⟨p, hp, ih p hp (arePositive_iff.1 hpositive p hp) h hholds⟩
  | nor ps _ => cases hpositive
  | not inner _ => cases hpositive
  | field path inner ih => exact ih hpositive (FieldPath.select_subset path h) hvs
  | presence expected =>
      obtain rfl : expected = true := hpositive
      rw [holds, beq_true, Bool.not_eq_true'] at hvs ⊢
      exact Bool.eq_false_iff.2 (mt (isEmpty_of_subset h) (Bool.eq_false_iff.1 hvs))
  | all expected => exact any_of_subset h hvs
  | size n => exact any_of_subset h hvs
  | elemMatch inner _ => exact any_of_subset h hvs

end

/-- A predicate depends on which values were selected, not on their order or how often each was.
One without negations and tests for absence keeps holding when further values are selected. -/
theorem holds_selection (p : Predicate) (now : Instant) :
    (∀ vs ws, (∀ v, v ∈ vs ↔ v ∈ ws) → p.holds now vs = p.holds now ws) ∧
      (p.isPositive = true → ∀ vs ws, vs ⊆ ws → p.holds now vs = true → p.holds now ws = true) :=
  ⟨fun _ _ => holds_of_mem_iff, fun hpositive _ _ => holds_of_subset hpositive⟩

/-- What a sequence under `a` matches it matches behind other records, and a negation sees no
difference when records are repeated in another order. -/
theorem holds_selection_elements :
    let p : Predicate := .field ["a"] (.or [.all [.bool true, .null],
      .elemMatch (.and [.exists true, .test (.equals (.bool false))])])
    let v : Literal := .mapping [("a", .sequence [.bool false, .null])]
    let w : Literal := .mapping [("b", .null)]
    p.isPositive = true ∧ [v] ⊆ [w, v, w] ∧
      ∀ now, p.holds now [v] = true ∧ p.holds now [w, v, w] = true ∧
        (Predicate.not p).holds now [w, v, w] = (Predicate.not p).holds now [v, w] := by
  intro p v w
  have hsubset : [v] ⊆ [w, v, w] := by simp
  refine ⟨rfl, hsubset, fun now => ⟨rfl, ?_, ?_⟩⟩
  · exact (holds_selection p now).2 rfl [v] [w, v, w] hsubset rfl
  · exact (holds_selection (.not p) now).1 [w, v, w] [v, w] (by simp [or_comm])

end Predicate

end RuleBook
