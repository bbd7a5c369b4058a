import RuleBook.Proofs.Matching.Reordering
import RuleBook.Proofs.Rule.Plan

/-!
# Rules up to the order of entries

The head of a rule and the record it is asked of may list the entries of their mappings in
any order.  This holds through pointers and markers too, since these find values by key.
-/

namespace RuleBook

open Literal

namespace Pointer

theorem step?_akin {x y : Literal} (h : Akin x y) (token : List Char) :
    Option.Rel Akin (step? x token) (step? y token) := by
  cases x with
  | sequence items =>
      obtain ⟨items', rfl, hitems⟩ := akin_sequence_iff.1 h
      rw [step?, step?]
      cases index? token with
      | none => exact .none
      | some i => exact rel_getElem? hitems i
  | mapping entries =>
      obtain ⟨entries', zs, rfl, -⟩ := akin_mapping_iff.1 h
      exact h.lookup _
  | _ => obtain ⟨-, rfl⟩ := h; exact .none

theorem descend?_akin {x y : Literal} (h : Akin x y) (tokens : List (List Char)) :
    Option.Rel Akin (descend? x tokens) (descend? y tokens) := by
  induction tokens generalizing x y with
  | nil => exact .some h
  | cons token tokens ih =>
      have hstep := step?_akin h token
      rw [descend?, descend?]
      generalize step? x token = a, step? y token = b at hstep ⊢
      cases hstep with
      | none => exact .none
      | some hstep => exact ih hstep

theorem resolve?_akin {x y : Literal} (h : Akin x y) (pointer : List Char) :
    Option.Rel Akin (resolve? x pointer) (resolve? y pointer) := by
  rw [resolve?, resolve?]
  cases tokens? pointer with
  | none => exact .none
  | some tokens => exact descend?_akin h tokens

end Pointer

namespace Reference

theorem target_akin {record record' x y : Literal} (hrecord : Akin record record')
    (h : Akin x y) : Akin (target record x) (target record' y) := by
  have hnan : Akin .nan .nan := ⟨trivial, rfl⟩
  cases x with
  | string pointer =>
      obtain ⟨-, rfl⟩ := h
      have hvalue := Pointer.resolve?_akin hrecord pointer.toList
      rw [target, target]
      generalize Pointer.resolve? record _ = a, Pointer.resolve? record' _ = b at hvalue ⊢
      cases hvalue with
      | none => exact hnan
      | some hvalue => exact hvalue
  | sequence items =>
      obtain ⟨items', rfl, -⟩ := akin_sequence_iff.1 h
      exact hnan
  | mapping entries =>
      obtain ⟨entries', zs, rfl, -⟩ := akin_mapping_iff.1 h
      exact hnan
  | _ => obtain ⟨-, rfl⟩ := h; exact hnan

mutual

theorem occursIn_akin : ∀ {x y : Literal}, Akin x y → occursIn x = occursIn y
  | .mapping xs, _, h => by
      obtain ⟨ys, zs, rfl, -, hperm, hentries⟩ := akin_mapping_iff.1 h
      rw [occursIn, occursIn, occursInEntries_akin hentries, occursInEntries_eq_any,
        occursInEntries_eq_any, hperm.any_eq]
  | .sequence items, _, h => by
      obtain ⟨items', rfl, hitems⟩ := akin_sequence_iff.1 h
      exact occursInItems_akin hitems
  | .null, _, ⟨_, rfl⟩ => rfl
  | .bool _, _, ⟨_, rfl⟩ => rfl
  | .number _, _, ⟨_, rfl⟩ => rfl
  | .string _, _, ⟨_, rfl⟩ => rfl
  | .date _, _, ⟨_, rfl⟩ => rfl
  | .regex _, _, ⟨_, rfl⟩ => rfl
  | .binary _, _, ⟨_, rfl⟩ => rfl

theorem occursInItems_akin : ∀ {xs ys : List Literal}, List.Forall₂ Akin xs ys →
    occursInItems xs = occursInItems ys
  | [], _, .nil => rfl
  | _ :: _, _, .cons hxy h => by
      rw [occursInItems, occursInItems, occursIn_akin hxy, occursInItems_akin h]

theorem occursInEntries_akin : ∀ {xs ys : List (String × Literal)},
    List.Forall₂ AkinEntry xs ys → occursInEntries xs = occursInEntries ys
  | [], _, .nil => rfl
  | (key, x) :: xs, (_, y) :: ys, .cons ⟨rfl, hxy⟩ h => by
      rw [occursInEntries, occursInEntries, occursIn_akin hxy, occursInEntries_akin h]

end

mutual

theorem substitute_akin {resolve resolve' : Literal → Literal}
    (hresolve : ∀ x y, Akin x y → Akin (resolve x) (resolve' y)) :
    ∀ {x y : Literal}, Akin x y → Akin (substitute resolve x) (substitute resolve' y)
  | .mapping xs, _, h => by
      obtain ⟨ys, zs, rfl, hnodup, hperm, hentries⟩ := akin_mapping_iff.1 h
      have hmarker := h.lookup markerKey
      rw [substitute, substitute]
      generalize lookup markerKey xs = a, lookup markerKey ys = b at hmarker ⊢
      cases hmarker with
      | some hmarker => exact hresolve _ _ hmarker
      | none =>
          have hpairs := substituteEntries_akin hresolve hentries
          refine akin_mapping_iff.2 ⟨_, substituteEntries resolve' zs, rfl, ?_, ?_, hpairs⟩
          · rw [substituteEntries_eq_map, List.map_map]
            exact hnodup
          · rw [substituteEntries_eq_map, substituteEntries_eq_map]
            exact hperm.map _
  | .sequence items, _, h => by
      obtain ⟨items', rfl, hitems⟩ := akin_sequence_iff.1 h
      exact akin_sequence_iff.2 ⟨_, rfl, substituteItems_akin hresolve hitems⟩
  | .null, _, ⟨_, rfl⟩ => ⟨trivial, rfl⟩
  | .bool _, _, ⟨_, rfl⟩ => ⟨trivial, rfl⟩
  | .number _, _, ⟨_, rfl⟩ => ⟨trivial, rfl⟩
  | .string _, _, ⟨_, rfl⟩ => ⟨trivial, rfl⟩
  | .date _, _, ⟨_, rfl⟩ => ⟨trivial, rfl⟩
  | .regex _, _, ⟨_, rfl⟩ => ⟨trivial, rfl⟩
  | .binary _, _, ⟨_, rfl⟩ => ⟨trivial, rfl⟩

theorem substituteItems_akin {resolve resolve' : Literal → Literal}
    (hresolve : ∀ x y, Akin x y → Akin (resolve x) (resolve' y)) :
    ∀ {xs ys : List Literal}, List.Forall₂ Akin xs ys →
      List.Forall₂ Akin (substituteItems resolve xs) (substituteItems resolve' ys)
  | [], _, .nil => .nil
  | _ :: _, _, .cons hxy h =>
      .cons (substitute_akin hresolve hxy) (substituteItems_akin hresolve h)

theorem substituteEntries_akin {resolve resolve' : Literal → Literal}
    (hresolve : ∀ x y, Akin x y → Akin (resolve x) (resolve' y)) :
    ∀ {xs ys : List (String × Literal)}, List.Forall₂ AkinEntry xs ys →
      List.Forall₂ AkinEntry (substituteEntries resolve xs) (substituteEntries resolve' ys)
  | [], _, .nil => .nil
  | (_, _x) :: _, (_, _y) :: _, .cons ⟨rfl, hxy⟩ h =>
      .cons ⟨rfl, substitute_akin hresolve hxy⟩ (substituteEntries_akin hresolve h)

end

theorem dereference_akin {head head' record record' : Literal} (hhead : Akin head head')
    (hrecord : Akin record record') :
    Akin (dereference head record) (dereference head' record') :=
  substitute_akin (fun _ _ => target_akin hrecord) hhead

end Reference

namespace Predicate

theorem isOk_checkEntries (entries : List (String × Literal)) :
    (checkEntries entries).isOk = entries.all fun entry =>
      (!Operator.isOperatorKey entry.1 || (lookupOperator entry.1).isOk) &&
        (checkOperators entry.2).isOk := by
  induction entries with
  | nil => rfl
  | cons entry entries ih =>
      obtain ⟨key, value⟩ := entry
      rw [checkEntries, List.all_cons, ← ih]
      cases hkey : Operator.isOperatorKey key with
      | false => simp [isOk_bind]
      | true => cases lookupOperator key <;> simp [isOk_bind, Bool.and_assoc]

mutual

theorem isOk_checkOperators_akin : ∀ {x y : Literal}, Akin x y →
    (checkOperators x).isOk = (checkOperators y).isOk
  | .mapping xs, _, h => by
      obtain ⟨ys, zs, rfl, -, hperm, hentries⟩ := akin_mapping_iff.1 h
      rw [checkOperators, checkOperators, isSome_eq_of_rel (h.lookup Reference.markerKey)]
      split
      · rfl
      · rw [isOk_checkEntries_akin hentries, isOk_checkEntries, isOk_checkEntries, hperm.all_eq]
  | .sequence items, _, h => by
      obtain ⟨items', rfl, hitems⟩ := akin_sequence_iff.1 h
      exact isOk_checkItems_akin hitems
  | .null, _, ⟨_, rfl⟩ => rfl
  | .bool _, _, ⟨_, rfl⟩ => rfl
  | .number _, _, ⟨_, rfl⟩ => rfl
  | .string _, _, ⟨_, rfl⟩ => rfl
  | .date _, _, ⟨_, rfl⟩ => rfl
  | .regex _, _, ⟨_, rfl⟩ => rfl
  | .binary _, _, ⟨_, rfl⟩ => rfl

theorem isOk_checkItems_akin : ∀ {xs ys : List Literal}, List.Forall₂ Akin xs ys →
    (checkItems xs).isOk = (checkItems ys).isOk
  | [], _, .nil => rfl
  | _ :: _, _, .cons hxy h => by
      rw [checkItems, checkItems, isOk_bind, isOk_bind, isOk_checkOperators_akin hxy,
        isOk_checkItems_akin h]

theorem isOk_checkEntries_akin : ∀ {xs ys : List (String × Literal)},
    List.Forall₂ AkinEntry xs ys → (checkEntries xs).isOk = (checkEntries ys).isOk
  | [], _, .nil => rfl
  | (key, x) :: xs, (_, y) :: ys, .cons ⟨rfl, hxy⟩ h => by
      have hmore := isOk_checkEntries_akin h
      rw [isOk_checkEntries, isOk_checkEntries] at hmore ⊢
      rw [List.all_cons, List.all_cons, isOk_checkOperators_akin hxy, hmore]

end

end Predicate

theorem Plan.isOk_ofHead_akin {x y : Literal} (h : Akin x y) :
    (Plan.ofHead x).isOk = (Plan.ofHead y).isOk := by
  rw [Plan.ofHead, Plan.ofHead, Reference.occursIn_akin h]
  split
  · have hcheck := Predicate.isOk_checkOperators_akin h
    exact (isOk_bind_ok _ _).trans (hcheck.trans (isOk_bind_ok _ _).symm)
  · have hcompile := (Predicate.compile_akin h).isOk_eq
    exact (isOk_bind_ok _ _).trans (hcompile.trans (isOk_bind_ok _ _).symm)

theorem Literal.matchesRecord_akin (now : Instant) {head head' record record' : Literal}
    (hhead : Akin head head') (hrecord : Akin record record') :
    Alike Eq (head.matchesRecord now record) (head'.matchesRecord now record') :=
  (Predicate.compile_akin hhead).bind fun _ _ hpq => .ok (hpq now (.cons hrecord .nil))

namespace Rule

/-- The order of entries plays no role: of heads with the same entries in another order
both or neither make a rule, and asked of records with the same entries in another order
both rules fail or give one answer. -/
theorem matchesRecord_reordered {head head' record record' : Literal}
    (hhead : head.Reordered head') (hrecord : record.Reordered record')
    (hhead' : head.UniqueKeys) (hrecord' : record.UniqueKeys) (tail? tail'? : Option Literal)
    (name name' : String) :
    (ofParts head tail? name).isOk = (ofParts head' tail'? name').isOk ∧
    ∀ rule rule', ofParts head tail? name = .ok rule → ofParts head' tail'? name' = .ok rule' →
      ∀ now? clock, ({ rule with now? }.matchesRecord clock record).toOption =
        ({ rule' with now? }.matchesRecord clock record').toOption := by
  have hakin : Akin head head' := ⟨hhead', hhead⟩
  have hakin' : Akin record record' := ⟨hrecord', hrecord⟩
  constructor
  · rw [isOk_ofParts, isOk_ofParts, Plan.isOk_ofHead_akin hakin]
  · intro rule rule' h h' now? clock
    obtain ⟨rfl, -⟩ := ofParts_inv h
    obtain ⟨rfl, -⟩ := ofParts_inv h'
    rw [matchesRecord_eq, matchesRecord_eq]
    exact (matchesRecord_akin (now?.getD clock) (Reference.dereference_akin hakin hakin')
      hakin').toOption_eq

/-- Flags before and after their pattern, and a mapping that a marker stands for. -/
theorem matchesRecord_reordered_flags :
    let head : Literal := .mapping
      [("a", .mapping [("$regex", .string "x"), ("$options", .string "i")]),
        ("b", .mapping [("$ref", .string "/c")])]
    let head' : Literal := .mapping
      [("b", .mapping [("$ref", .string "/c")]),
        ("a", .mapping [("$options", .string "i"), ("$regex", .string "x")])]
    let record : Literal := .mapping
      [("b", .mapping [("p", .null), ("q", .string "X")]), ("c", .sequence [.bool true])]
    let record' : Literal := .mapping
      [("c", .sequence [.bool true]), ("b", .mapping [("q", .string "X"), ("p", .null)])]
    head.Reordered head' ∧ record.Reordered record' ∧ head.UniqueKeys ∧ record.UniqueKeys ∧
      ∃ rule rule', ofParts head none "" = .ok rule ∧ ofParts head' none "" = .ok rule' ∧
        ∀ now? clock, ({ rule with now? }.matchesRecord clock record).toOption =
          ({ rule' with now? }.matchesRecord clock record').toOption := by
  intro head head' record record'
  have hmarker : Literal.Reordered (.mapping [("$ref", .string "/c")])
      (.mapping [("$ref", .string "/c")]) := ⟨_, _, rfl, .refl _, _, _, rfl, rfl, rfl⟩
  have hregex : Literal.Reordered
      (.mapping [("$regex", .string "x"), ("$options", .string "i")])
      (.mapping [("$options", .string "i"), ("$regex", .string "x")]) :=
    ⟨_, _, rfl, .swap _ _ _, _, _, rfl, rfl, _, _, rfl, rfl, rfl⟩
  have hhead : head.Reordered head' :=
    ⟨_, _, rfl, .swap _ _ _, _, _, rfl, hregex, _, _, rfl, hmarker, rfl⟩
  have hvalue : Literal.Reordered (.mapping [("p", .null), ("q", .string "X")])
      (.mapping [("q", .string "X"), ("p", .null)]) :=
    ⟨_, _, rfl, .swap _ _ _, _, _, rfl, rfl, _, _, rfl, rfl, rfl⟩
  have hitems : Literal.Reordered (.sequence [.bool true]) (.sequence [.bool true]) :=
    ⟨_, rfl, _, _, rfl, rfl, rfl⟩
  have hrecord : record.Reordered record' :=
    ⟨_, _, rfl, .swap _ _ _, _, _, rfl, hvalue, _, _, rfl, hitems, rfl⟩
  have hunique : head.UniqueKeys :=
    ⟨by decide, ⟨by decide, trivial, trivial, trivial⟩, ⟨by decide, trivial, trivial⟩, trivial⟩
  have hunique' : record.UniqueKeys :=
    ⟨by decide, ⟨by decide, trivial, trivial, trivial⟩, ⟨trivial, trivial⟩, trivial⟩
  obtain ⟨rule, hrule, -⟩ := ofParts_eq_ok (show Plan.ofHead head = .ok .perRecord from rfl) none ""
  obtain ⟨rule', hrule', -⟩ :=
    ofParts_eq_ok (show Plan.ofHead head' = .ok .perRecord from rfl) none ""
  exact ⟨hhead, hrecord, hunique, hunique', rule, rule', hrule, hrule',
    (matchesRecord_reordered hhead hrecord hunique hunique' none none "" "").2 rule rule' hrule
      hrule'⟩

end Rule

end RuleBook
