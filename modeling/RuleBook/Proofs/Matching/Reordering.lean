import RuleBook.Proofs.Literal.Reordering
import RuleBook.Proofs.Matching.Compile

/-!
# Matching up to the order of entries

Akin heads compile into predicates that agree on akin records.  The conjuncts of a mapping
come in the order of its entries, but all of them have to hold.
-/

namespace RuleBook

open Literal

/-! ## Field paths -/

namespace FieldPath

theorem step_akin {v w : Literal} (h : Akin v w) (segment : String) :
    List.Forall₂ Akin (step segment v) (step segment w) := by
  cases v with
  | sequence items =>
      obtain ⟨items', rfl, hitems⟩ := akin_sequence_iff.1 h
      dsimp only [step]
      split
      · exact forall₂_toList (rel_getElem? hitems _)
      · exact List.rel_filterMap (fun _ _ hitem => hitem.get? segment) hitems
  | mapping entries =>
      obtain ⟨entries', zs, rfl, -⟩ := akin_mapping_iff.1 h
      exact forall₂_toList (h.lookup segment)
  | _ => obtain ⟨-, rfl⟩ := h; exact .nil

theorem select_akin (path : List String) {vs ws : List Literal} (h : List.Forall₂ Akin vs ws) :
    List.Forall₂ Akin (select path vs) (select path ws) := by
  induction path generalizing vs ws with
  | nil => exact h
  | cons segment path ih =>
      exact ih (List.rel_flatMap h fun _ _ hvalue => step_akin hvalue segment)

end FieldPath

/-! ## Tests -/

section

variable {e f v w : Literal}

theorem equalOrMatch_akin (he : Akin e f) (hv : Akin v w) :
    equalOrMatch e v = equalOrMatch f w := by
  have hsame : e.same v = f.same w := he.same hv
  rcases he.cases with rfl | ⟨_, _, rfl, rfl, -⟩ | ⟨_, _, rfl, rfl, -⟩
  · rcases hv.cases with rfl | ⟨_, _, rfl, rfl, -⟩ | ⟨_, _, rfl, rfl, -⟩
    · rfl
    · cases e <;> exact hsame
    · cases e <;> exact hsame
  · exact hsame
  · exact hsame

theorem order?_akin (he : Akin e f) (hv : Akin v w) : order? v e = order? w f := by
  rcases hv.cases with rfl | ⟨_, _, rfl, rfl, -⟩ | ⟨_, _, rfl, rfl, -⟩
  · rcases he.cases with rfl | ⟨_, _, rfl, rfl, -⟩ | ⟨_, _, rfl, rfl, -⟩
    · rfl
    · cases v <;> rfl
    · cases v <;> rfl
  · rfl
  · rfl

end

namespace Test

structure Agrees (t u : Test) : Prop where
  acceptsUndefined : t.acceptsUndefined = u.acceptsUndefined
  accepts : ∀ now {v w : Literal}, Akin v w → t.accepts now v = u.accepts now w

namespace Agrees

variable {e f : Literal} {es fs : List Literal}

theorem equals (h : Akin e f) : Agrees (.equals e) (.equals f) where
  acceptsUndefined := by
    rcases h.cases with rfl | ⟨_, _, rfl, rfl, -⟩ | ⟨_, _, rfl, rfl, -⟩ <;> rfl
  accepts _ _ _ hv := h.same hv

theorem compares (comparison : Comparison) (h : Akin e f) :
    Agrees (.compares comparison e) (.compares comparison f) where
  acceptsUndefined := rfl
  accepts _ _ _ hv := by rw [Test.accepts, Test.accepts, order?_akin h hv]

theorem isIn (h : List.Forall₂ Akin es fs) : Agrees (.isIn es) (.isIn fs) where
  acceptsUndefined := any_eq_of_forall₂ h fun _ _ hef => by
    rcases hef.cases with rfl | ⟨_, _, rfl, rfl, -⟩ | ⟨_, _, rfl, rfl, -⟩ <;> rfl
  accepts _ _ _ hv := any_eq_of_forall₂ h fun _ _ hef => equalOrMatch_akin hef hv

theorem matchesRegex (r : RegexLiteral) : Agrees (.matchesRegex r) (.matchesRegex r) where
  acceptsUndefined := rfl
  accepts _ _ _ hv := by
    rcases hv.cases with rfl | ⟨_, _, rfl, rfl, -⟩ | ⟨_, _, rfl, rfl, -⟩ <;> rfl

theorem mod (divisor remainder : Float) : Agrees (.mod divisor remainder) (.mod divisor remainder)
    where
  acceptsUndefined := rfl
  accepts _ _ _ hv := by
    rcases hv.cases with rfl | ⟨_, _, rfl, rfl, -⟩ | ⟨_, _, rfl, rfl, -⟩ <;> rfl

theorem hasType (name : String) : Agrees (.hasType name) (.hasType name) where
  acceptsUndefined := rfl
  accepts _ _ _ hv := by
    rcases hv.cases with rfl | ⟨_, _, rfl, rfl, -⟩ | ⟨_, _, rfl, rfl, -⟩ <;> rfl

theorem age (direction : Age) (cutoff : Cutoff) :
    Agrees (.age direction cutoff) (.age direction cutoff) where
  acceptsUndefined := rfl
  accepts _ _ _ hv := by
    rcases hv.cases with rfl | ⟨_, _, rfl, rfl, -⟩ | ⟨_, _, rfl, rfl, -⟩ <;> rfl

variable {t u : Test}

theorem acceptsSome (h : Agrees t u) (now : Instant) {v w : Literal} (hv : Akin v w) :
    t.acceptsSome now v = u.acceptsSome now w := by
  have haccepts := h.accepts now hv
  cases v with
  | sequence items =>
      obtain ⟨items', rfl, hitems⟩ := akin_sequence_iff.1 hv
      exact congrArg₂ (· || ·) haccepts
        (any_eq_of_forall₂ hitems fun _ _ hitem => h.accepts now hitem)
  | mapping entries =>
      obtain ⟨entries', zs, rfl, -⟩ := akin_mapping_iff.1 hv
      exact congrArg (· || false) haccepts
  | _ =>
      obtain ⟨-, rfl⟩ := hv
      exact congrArg (· || false) haccepts

theorem holds (h : Agrees t u) (now : Instant) {vs ws : List Literal}
    (hvs : List.Forall₂ Akin vs ws) : t.holds now vs = u.holds now ws := by
  have hany := any_eq_of_forall₂ hvs fun _ _ hv => h.acceptsSome now hv
  rw [Test.holds, Test.holds, h.acceptsUndefined, hany]
  cases hvs <;> rfl

end Agrees

end Test

/-! ## Predicates -/

namespace Predicate

theorem allHold_eq_all (now : Instant) (ps : List Predicate) (values : List Literal) :
    allHold now ps values = ps.all (·.holds now values) := by
  induction ps with
  | nil => rfl
  | cons p ps ih => rw [allHold, ih, List.all_cons]

theorem anyHolds_eq_any (now : Instant) (ps : List Predicate) (values : List Literal) :
    anyHolds now ps values = ps.any (·.holds now values) := by
  induction ps with
  | nil => rfl
  | cons p ps ih => rw [anyHolds, ih, List.any_cons]

section

variable {ps : List Predicate} {now : Instant} {vs ws : List Literal}

theorem allHold_congr (h : ∀ p ∈ ps, p.holds now vs = p.holds now ws) :
    allHold now ps vs = allHold now ps ws := by
  rw [allHold_eq_all, allHold_eq_all, Bool.eq_iff_iff, List.all_eq_true, List.all_eq_true]
  exact forall₂_congr fun p hp => by rw [h p hp]

theorem anyHolds_congr (h : ∀ p ∈ ps, p.holds now vs = p.holds now ws) :
    anyHolds now ps vs = anyHolds now ps ws := by
  rw [anyHolds_eq_any, anyHolds_eq_any, Bool.eq_iff_iff, List.any_eq_true, List.any_eq_true]
  exact exists_congr fun p => and_congr_right fun hp => by rw [h p hp]

end

theorem conjoin_holds (now : Instant) (ps : List Predicate) (values : List Literal) :
    (conjoin ps).holds now values = ps.all (·.holds now values) := by
  unfold conjoin
  split
  · simp
  · rw [holds, allHold_eq_all]

def Agrees (p q : Predicate) : Prop :=
  ∀ now {vs ws : List Literal}, List.Forall₂ Akin vs ws → p.holds now vs = q.holds now ws

namespace Agrees

variable {p q : Predicate} {ps qs : List Predicate} {es fs : List Literal}

theorem test {t u : Test} (h : Test.Agrees t u) : Agrees (.test t) (.test u) :=
  fun now _ _ hvs => h.holds now hvs

theorem not (h : Agrees p q) : Agrees (.not p) (.not q) := fun now _ _ hvs => by
  rw [holds, holds, h now hvs]

theorem field (path : List String) (h : Agrees p q) : Agrees (.field path p) (.field path q) :=
  fun now _ _ hvs => h now (FieldPath.select_akin path hvs)

theorem presence (expected : Bool) : Agrees (.exists expected) (.exists expected) :=
  fun _ _ _ hvs => by cases hvs <;> rfl

theorem and (h : List.Forall₂ Agrees ps qs) : Agrees (.and ps) (.and qs) := fun now _ _ hvs => by
  rw [holds, holds, allHold_eq_all, allHold_eq_all]
  exact all_eq_of_forall₂ h fun _ _ hpq => hpq now hvs

theorem anyHolds (h : List.Forall₂ Agrees ps qs) (now : Instant) {vs ws : List Literal}
    (hvs : List.Forall₂ Akin vs ws) : anyHolds now ps vs = anyHolds now qs ws := by
  rw [anyHolds_eq_any, anyHolds_eq_any]
  exact any_eq_of_forall₂ h fun _ _ hpq => hpq now hvs

theorem or (h : List.Forall₂ Agrees ps qs) : Agrees (.or ps) (.or qs) :=
  fun now _ _ hvs => anyHolds h now hvs

theorem nor (h : List.Forall₂ Agrees ps qs) : Agrees (.nor ps) (.nor qs) := fun now _ _ hvs => by
  rw [holds, holds, anyHolds h now hvs]

theorem conjoin {rs : List Predicate} (h : List.Forall₂ Agrees ps rs) (hperm : rs.Perm qs) :
    Agrees (conjoin ps) (conjoin qs) := fun now _ _ hvs => by
  rw [conjoin_holds, conjoin_holds, ← hperm.all_eq]
  exact all_eq_of_forall₂ h fun _ _ hpq => hpq now hvs

private theorem elements_akin {f g : List Literal → Bool}
    (hfg : ∀ {xs ys}, List.Forall₂ Akin xs ys → f xs = g ys) : ∀ v w, Akin v w →
      (match v with | .sequence items => f items | _ => false) =
        match w with | .sequence items => g items | _ => false
  | .sequence items, _, h => by
      obtain ⟨items', rfl, hitems⟩ := akin_sequence_iff.1 h
      exact hfg hitems
  | .mapping entries, _, h => by
      obtain ⟨entries', zs, rfl, -⟩ := akin_mapping_iff.1 h
      rfl
  | .null, _, ⟨_, rfl⟩ => rfl
  | .bool _, _, ⟨_, rfl⟩ => rfl
  | .number _, _, ⟨_, rfl⟩ => rfl
  | .string _, _, ⟨_, rfl⟩ => rfl
  | .date _, _, ⟨_, rfl⟩ => rfl
  | .regex _, _, ⟨_, rfl⟩ => rfl
  | .binary _, _, ⟨_, rfl⟩ => rfl

theorem all (h : List.Forall₂ Akin es fs) : Agrees (.all es) (.all fs) := fun _ _ _ hvs => by
  refine any_eq_of_forall₂ hvs (elements_akin fun hitems => ?_)
  exact all_eq_of_forall₂ h fun _ _ hef =>
    any_eq_of_forall₂ hitems fun _ _ hitem => equalOrMatch_akin hef hitem

theorem size (n : Nat) : Agrees (.size n) (.size n) := fun _ _ _ hvs => by
  refine any_eq_of_forall₂ hvs (elements_akin fun hitems => ?_)
  rw [hitems.length_eq]

theorem elemMatch (h : Agrees p q) : Agrees (.elemMatch p) (.elemMatch q) := fun now _ _ hvs => by
  refine any_eq_of_forall₂ hvs (elements_akin fun hitems => ?_)
  exact any_eq_of_forall₂ hitems fun _ _ hitem => h now (.cons hitem .nil)

end Agrees

end Predicate

/-! ## Operands -/

namespace Operand

section

variable {x y : Literal} (operator : Operator)

theorem items_akin (h : Akin x y) :
    Alike (List.Forall₂ Akin) (items operator x) (items operator y) := by
  cases x with
  | sequence xs =>
      obtain ⟨ys, rfl, hitems⟩ := akin_sequence_iff.1 h
      exact .ok hitems
  | mapping xs =>
      obtain ⟨ys, zs, rfl, -⟩ := akin_mapping_iff.1 h
      exact .error _ _
  | _ => obtain ⟨-, rfl⟩ := h; exact .error _ _

theorem truth_akin (h : Akin x y) : Alike Eq (truth operator x) (truth operator y) := by
  rcases h.cases with rfl | ⟨_, _, rfl, rfl, -⟩ | ⟨_, _, rfl, rfl, -⟩ <;> exact .refl _

theorem count_akin (h : Akin x y) : Alike Eq (count operator x) (count operator y) := by
  rcases h.cases with rfl | ⟨_, _, rfl, rfl, -⟩ | ⟨_, _, rfl, rfl, -⟩ <;> exact .refl _

theorem nameOfType_akin (h : Akin x y) :
    Alike Eq (nameOfType operator x) (nameOfType operator y) := by
  rcases h.cases with rfl | ⟨_, _, rfl, rfl, -⟩ | ⟨_, _, rfl, rfl, -⟩ <;> exact .refl _

theorem cutoff_akin (h : Akin x y) : Alike Eq (cutoff operator x) (cutoff operator y) := by
  rcases h.cases with rfl | ⟨_, _, rfl, rfl, -⟩ | ⟨_, _, rfl, rfl, -⟩
  · exact .refl _
  · exact .error _ _
  · exact .error _ _

theorem akin_number_right {n : Float} : Akin x (.number n) ↔ x = .number n := by
  constructor
  · intro h
    rcases h.cases with rfl | ⟨_, _, _, ⟨⟩, -⟩ | ⟨_, _, _, ⟨⟩, -⟩
    rfl
  · rintro rfl
    exact ⟨trivial, rfl⟩

theorem divisorAndRemainder_akin (h : Akin x y) :
    Alike Eq (divisorAndRemainder operator x) (divisorAndRemainder operator y) := by
  refine (items_akin operator h).bind fun xs ys hitems => ?_
  have hpair (divisor remainder : Float) :
      ys = [.number divisor, .number remainder] → xs = [.number divisor, .number remainder] := by
    rintro rfl
    rcases hitems with _ | ⟨hdivisor, _ | ⟨hremainder, ⟨⟩⟩⟩
    rw [akin_number_right.1 hdivisor, akin_number_right.1 hremainder]
  split
  · rcases hitems with _ | ⟨⟨-, ⟨⟩⟩, _ | ⟨⟨-, ⟨⟩⟩, ⟨⟩⟩⟩
    exact .ok rfl
  · next hother =>
    split
    · exact absurd (hpair _ _ rfl) (hother _ _)
    · exact .error _ _

theorem regexOptions_akin {a b : Option Literal} (h : Option.Rel Akin a b) :
    Alike Eq (regexOptions a) (regexOptions b) := by
  cases h with
  | none => exact .ok rfl
  | some h =>
      rcases h.cases with rfl | ⟨_, _, rfl, rfl, -⟩ | ⟨_, _, rfl, rfl, -⟩ <;> exact .refl _

theorem regex_akin (h : Akin x y) {a b : Option Literal} (hoptions : Option.Rel Akin a b) :
    Alike Eq (regex x a) (regex y b) := by
  refine (regexOptions_akin hoptions).bind fun flags _ hflags => ?_
  subst hflags
  rcases h.cases with rfl | ⟨_, _, rfl, rfl, -⟩ | ⟨_, _, rfl, rfl, -⟩ <;> exact .refl _

end

end Operand

/-! ## Heads -/

namespace Predicate

section

variable {x y : Literal} {xs ys : List (String × Literal)}

theorem equalTo_akin (h : Akin x y) : Agrees (equalTo x) (equalTo y) := by
  cases x with
  | regex r =>
      obtain ⟨-, rfl⟩ := h
      exact .test (.matchesRegex r)
  | sequence items =>
      obtain ⟨items', rfl, -⟩ := akin_sequence_iff.1 h
      exact .test (.equals h)
  | mapping entries =>
      obtain ⟨entries', zs, rfl, -⟩ := akin_mapping_iff.1 h
      exact .test (.equals h)
  | _ =>
      obtain ⟨-, rfl⟩ := id h
      exact .test (.equals h)

theorem ofOperand_akin (operator : Operator) (h : Akin x y)
    (hsiblings : ∀ key, Option.Rel Akin (lookup key xs) (lookup key ys)) :
    Alike (Option.Rel Agrees) (ofOperand operator x xs) (ofOperand operator y ys) := by
  cases operator with
  | eq => exact .ok (.some (equalTo_akin h))
  | ne => exact .ok (.some (equalTo_akin h).not)
  | gt => exact .ok (.some (.test (.compares .gt h)))
  | gte => exact .ok (.some (.test (.compares .gte h)))
  | lt => exact .ok (.some (.test (.compares .lt h)))
  | lte => exact .ok (.some (.test (.compares .lte h)))
  | isIn => exact (Operand.items_akin _ h).bind fun _ _ hitems => .ok (.some (.test (.isIn hitems)))
  | notIn =>
      exact (Operand.items_akin _ h).bind fun _ _ hitems =>
        .ok (.some (.not (.test (.isIn hitems))))
  | regex =>
      refine (Operand.regex_akin h (hsiblings _)).bind fun r _ hr => ?_
      subst hr
      exact .ok (.some (.test (.matchesRegex r)))
  | «exists» =>
      refine (Operand.truth_akin _ h).bind fun expected _ heq => ?_
      subst heq
      exact .ok (.some (.presence expected))
  | all => exact (Operand.items_akin _ h).bind fun _ _ hitems => .ok (.some (.all hitems))
  | size =>
      refine (Operand.count_akin _ h).bind fun n _ heq => ?_
      subst heq
      exact .ok (.some (.size n))
  | mod =>
      refine (Operand.divisorAndRemainder_akin _ h).bind fun pair _ heq => ?_
      subst heq
      exact .ok (.some (.test (.mod pair.1 pair.2)))
  | type =>
      refine (Operand.nameOfType_akin _ h).bind fun name _ heq => ?_
      subst heq
      exact .ok (.some (.test (.hasType name)))
  | olderThan =>
      refine (Operand.cutoff_akin _ h).bind fun cutoff _ heq => ?_
      subst heq
      exact .ok (.some (.test (.age .olderThan cutoff)))
  | newerThan =>
      refine (Operand.cutoff_akin _ h).bind fun cutoff _ heq => ?_
      subst heq
      exact .ok (.some (.test (.age .newerThan cutoff)))
  | options => exact .ok .none
  | not => exact .ok .none
  | and => exact .ok .none
  | or => exact .ok .none
  | nor => exact .ok .none
  | elemMatch => exact .ok .none

/-! ## Entries in another order -/

theorem compileEntries_cons (siblings : List (String × Literal)) (entry : String × Literal)
    (entries : List (String × Literal)) :
    compileEntries siblings (entry :: entries) = compileEntry siblings entry >>= fun conjunct =>
      compileEntries siblings entries >>= fun conjuncts => .ok (conjunct.toList ++ conjuncts) :=
  rfl

theorem compileEntries_perm (siblings : List (String × Literal)) (h : xs.Perm ys) :
    Alike List.Perm (compileEntries siblings xs) (compileEntries siblings ys) := by
  induction h with
  | nil => exact .ok .nil
  | cons entry _ ih =>
      rw [compileEntries_cons, compileEntries_cons]
      refine (Alike.refl _).bind fun conjunct _ heq => ?_
      subst heq
      exact ih.bind fun _ _ hperm => .ok (hperm.append_left _)
  | swap first second entries =>
      simp only [compileEntries_cons]
      cases compileEntry siblings first with
      | error e =>
          cases compileEntry siblings second <;> exact .error _ _
      | ok p =>
          cases compileEntry siblings second with
          | error e => exact .error _ _
          | ok q =>
              cases compileEntries siblings entries with
              | error e => exact .error _ _
              | ok ps =>
                  have hswap : (q.toList ++ p.toList ++ ps).Perm (p.toList ++ q.toList ++ ps) :=
                    List.perm_append_comm.append_right ps
                  exact .ok (by simpa using hswap)
  | trans _ _ ih ih' => exact ih.trans (fun _ _ _ => List.Perm.trans) ih'

end

/-! ## Reordered heads -/

section

variable {x y : Literal} {siblings siblings' : List (String × Literal)}

theorem compileOperator_akin (operator : Operator) (h : Akin x y)
    (hsiblings : ∀ key, Option.Rel Akin (lookup key siblings) (lookup key siblings'))
    (hhead : Alike Agrees (compile x) (compile y))
    (hheads : ∀ operator, Alike (List.Forall₂ Agrees) (compileOperands operator x)
      (compileOperands operator y)) :
    Alike (Option.Rel Agrees) (compileOperator operator x siblings)
      (compileOperator operator y siblings') := by
  have hother := ofOperand_akin operator h hsiblings
  cases operator with
  | not => exact hhead.bind fun _ _ hpq => .ok (.some hpq.not)
  | elemMatch => exact hhead.bind fun _ _ hpq => .ok (.some hpq.elemMatch)
  | and => exact (hheads .and).bind fun _ _ hpqs => .ok (.some (.and hpqs))
  | or => exact (hheads .or).bind fun _ _ hpqs => .ok (.some (.or hpqs))
  | nor => exact (hheads .nor).bind fun _ _ hpqs => .ok (.some (.nor hpqs))
  | _ => exact hother

theorem compileField_akin (h : Akin x y) (hhead : Alike Agrees (compile x) (compile y)) :
    Alike Agrees (compileField x) (compileField y) := by
  by_cases hempty : x = .mapping []
  · subst hempty
    obtain ⟨ys, _, rfl, -, hperm, ⟨⟩⟩ := akin_mapping_iff.1 h
    rw [List.nil_perm.1 hperm]
    exact .ok (.presence true)
  · have hempty' : y ≠ .mapping [] := by
      rintro rfl
      rcases h.cases with rfl | ⟨_, _, _, ⟨⟩, -⟩ | ⟨xs, _, rfl, ⟨⟩, hentries⟩
      · exact hempty rfl
      · exact hempty (by rw [List.eq_nil_of_length_eq_zero hentries.length_eq])
    rwa [compileField_of_ne hempty, compileField_of_ne hempty']

theorem compileEntry_akin (key : String) (h : Akin x y)
    (hsiblings : ∀ key, Option.Rel Akin (lookup key siblings) (lookup key siblings'))
    (hhead : Alike Agrees (compile x) (compile y))
    (hheads : ∀ operator, Alike (List.Forall₂ Agrees) (compileOperands operator x)
      (compileOperands operator y)) :
    Alike (Option.Rel Agrees) (compileEntry siblings (key, x))
      (compileEntry siblings' (key, y)) := by
  cases hkey : Operator.isOperatorKey key with
  | false =>
      rw [compileEntry_field hkey, compileEntry_field hkey]
      exact (compileField_akin h hhead).bind fun _ _ hpq => .ok (.some (hpq.field _))
  | true =>
      rw [compileEntry_operator hkey, compileEntry_operator hkey]
      refine (Alike.refl _).bind fun operator _ heq => ?_
      subst heq
      exact compileOperator_akin operator h hsiblings hhead hheads

end

mutual

theorem compile_akin : ∀ {x y : Literal}, Akin x y → Alike Agrees (compile x) (compile y)
  | .mapping xs, _, h => by
      obtain ⟨ys, zs, rfl, -, hperm, hentries⟩ := akin_mapping_iff.1 h
      have hconjuncts : Alike (fun ps qs => ∃ rs, List.Forall₂ Agrees ps rs ∧ rs.Perm qs)
          (compileEntries xs xs) (compileEntries ys ys) :=
        (compileEntries_akin hentries h.lookup).trans (fun _ rs _ hpqs hqs => ⟨rs, hpqs, hqs⟩)
          (compileEntries_perm ys hperm)
      exact hconjuncts.bind fun _ _ ⟨_, hpqs, hqs⟩ => .ok (.conjoin hpqs hqs)
  | .sequence items, _, h => by
      obtain ⟨items', rfl, -⟩ := akin_sequence_iff.1 h
      exact .ok (equalTo_akin h)
  | .null, _, ⟨_, rfl⟩ => .ok (equalTo_akin ⟨trivial, rfl⟩)
  | .bool _, _, ⟨_, rfl⟩ => .ok (equalTo_akin ⟨trivial, rfl⟩)
  | .number _, _, ⟨_, rfl⟩ => .ok (equalTo_akin ⟨trivial, rfl⟩)
  | .string _, _, ⟨_, rfl⟩ => .ok (equalTo_akin ⟨trivial, rfl⟩)
  | .date _, _, ⟨_, rfl⟩ => .ok (equalTo_akin ⟨trivial, rfl⟩)
  | .regex _, _, ⟨_, rfl⟩ => .ok (equalTo_akin ⟨trivial, rfl⟩)
  | .binary _, _, ⟨_, rfl⟩ => .ok (equalTo_akin ⟨trivial, rfl⟩)

theorem compileOperands_akin : ∀ {x y : Literal} (operator : Operator), Akin x y →
    Alike (List.Forall₂ Agrees) (compileOperands operator x) (compileOperands operator y)
  | .sequence items, _, _, h => by
      obtain ⟨items', rfl, hitems⟩ := akin_sequence_iff.1 h
      exact compileItems_akin hitems
  | .mapping entries, _, _, h => by
      obtain ⟨entries', _, rfl, -⟩ := akin_mapping_iff.1 h
      exact .error _ _
  | .null, _, _, ⟨_, rfl⟩ => .error _ _
  | .bool _, _, _, ⟨_, rfl⟩ => .error _ _
  | .number _, _, _, ⟨_, rfl⟩ => .error _ _
  | .string _, _, _, ⟨_, rfl⟩ => .error _ _
  | .date _, _, _, ⟨_, rfl⟩ => .error _ _
  | .regex _, _, _, ⟨_, rfl⟩ => .error _ _
  | .binary _, _, _, ⟨_, rfl⟩ => .error _ _

theorem compileItems_akin : ∀ {xs ys : List Literal}, List.Forall₂ Akin xs ys →
    Alike (List.Forall₂ Agrees) (compileItems xs) (compileItems ys)
  | [], _, .nil => .ok .nil
  | _ :: _, _, .cons hxy h => (compile_akin hxy).bind fun _ _ hpq =>
      (compileItems_akin h).bind fun _ _ hpqs => .ok (.cons hpq hpqs)

theorem compileEntries_akin : ∀ {xs zs siblings siblings' : List (String × Literal)},
    List.Forall₂ AkinEntry xs zs →
    (∀ key, Option.Rel Akin (lookup key siblings) (lookup key siblings')) →
    Alike (List.Forall₂ Agrees) (compileEntries siblings xs) (compileEntries siblings' zs)
  | [], _, _, _, .nil, _ => .ok .nil
  | (key, x) :: xs, (_, y) :: zs, _, _, .cons ⟨rfl, hxy⟩ h, hsiblings =>
      (compileEntry_akin key hxy hsiblings (compile_akin hxy)
        fun operator => compileOperands_akin operator hxy).bind fun _ _ hpq =>
      (compileEntries_akin h hsiblings).bind fun _ _ hpqs =>
        .ok (List.rel_append (forall₂_toList hpq) hpqs)

end

end Predicate

end RuleBook
