import RuleBook.Proofs.Literal.Equivalence

/-!
# What a literal is the same as

NaN is the same as nothing, and so is every literal that it stands in.  Any other literal is the
same as those that it equals.  So matching takes from equality, which is an equivalence relation
where keys are unique, the part without NaN.
-/

namespace RuleBook.Literal

mutual

def holdsNaN : Literal → Bool
  | .number x => Number.isNaN x
  | .sequence items => itemsHoldNaN items
  | .mapping entries => entriesHoldNaN entries
  | _ => false

def itemsHoldNaN : List Literal → Bool
  | [] => false
  | item :: items => item.holdsNaN || itemsHoldNaN items

def entriesHoldNaN : List (String × Literal) → Bool
  | [] => false
  | (_, value) :: entries => value.holdsNaN || entriesHoldNaN entries

end

theorem sameItems_iff {xs ys : List Literal}
    (h : ∀ x ∈ xs, ∀ {y}, x.same y = true ↔ x.beq y = true ∧ x.holdsNaN = false) :
    sameItems xs ys = true ↔ beqItems xs ys = true ∧ itemsHoldNaN xs = false := by
  induction xs generalizing ys with
  | nil => cases ys <;> simp [sameItems, beqItems, itemsHoldNaN]
  | cons x xs ih =>
      rw [List.forall_mem_cons] at h
      cases ys with
      | nil => simp [sameItems, beqItems]
      | cons y ys =>
          rw [sameItems, beqItems, itemsHoldNaN, Bool.and_eq_true, Bool.and_eq_true,
            Bool.or_eq_false_iff, h.1, ih h.2]
          exact and_and_and_comm

theorem sameEntries_iff {as bs : List (String × Literal)}
    (h : ∀ entry ∈ as, ∀ {y}, entry.2.same y = true ↔
      entry.2.beq y = true ∧ entry.2.holdsNaN = false) :
    sameEntries as bs = true ↔ beqEntries as bs = true ∧ entriesHoldNaN as = false := by
  induction as with
  | nil => simp [sameEntries, beqEntries, entriesHoldNaN]
  | cons entry as ih =>
      obtain ⟨key, a⟩ := entry
      rw [List.forall_mem_cons] at h
      rw [sameEntries, beqEntries, entriesHoldNaN, Bool.and_eq_true, Bool.and_eq_true,
        Bool.or_eq_false_iff, ih h.2]
      cases lookup key bs with
      | none => simp
      | some b =>
          dsimp only
          rw [h.1]
          exact and_and_and_comm

theorem same_iff {x y : Literal} : x.same y = true ↔ x.beq y = true ∧ x.holdsNaN = false := by
  induction x using inductionOnMembers generalizing y with
  | number a =>
      cases y with
      | number b =>
          rw [same, beq, holdsNaN, Number.equal]
          cases Number.isNaN a <;> simp
      | _ => simp [same, beq]
  | sequence items ih =>
      cases y with
      | sequence others => exact sameItems_iff fun item hitem => ih item hitem
      | _ => simp [same, beq]
  | mapping entries ih =>
      cases y with
      | mapping others =>
          rw [same, beq, holdsNaN, Bool.and_eq_true, Bool.and_eq_true,
            sameEntries_iff fun entry hentry => ih entry hentry, and_assoc]
      | _ => simp [same, beq]
  | _ => cases y <;> simp [same, beq, holdsNaN]

section

variable {x y : Literal}

theorem holdsNaN_of_same (h : x.same y = true) : x.holdsNaN = false := (same_iff.1 h).2

theorem same_self (hkeys : x.UniqueKeys) (h : x.holdsNaN = false) : x.same x = true :=
  same_iff.2 ⟨beq_refl hkeys, h⟩

end

/-- On literals with unique keys equality is an equivalence relation, and it holds between any two
that differ in the order of entries alone.  A literal is the same as another one in matching
exactly when it equals that one and holds no NaN. -/
theorem beq_equivalence :
    Equivalence (fun x y : { x : Literal // x.UniqueKeys } => (x.val == y.val) = true) ∧
      (∀ x y : Literal, x.UniqueKeys → x.Reordered y → (x == y) = true) ∧
      ∀ x y : Literal, x.same y = true ↔ (x == y) = true ∧ x.holdsNaN = false :=
  ⟨⟨fun x => beq_refl x.property, fun {x _} h => beq_symm x.property h,
      fun hxy hyz => beq_trans hxy hyz⟩,
    fun _ _ hunique hreordered => Akin.beq ⟨hunique, hreordered⟩, fun _ _ => same_iff⟩

/-- Two mappings in different orders with reordered mappings below them, first with NaN beside
those and then without. -/
theorem beq_equivalence_reordered :
    let inner : Literal := .sequence [.mapping [("c", .null), ("d", .bool true)]]
    let inner' : Literal := .sequence [.mapping [("d", .bool true), ("c", .null)]]
    let outer : Literal := .mapping [("a", nan), ("b", inner)]
    let outer' : Literal := .mapping [("b", inner'), ("a", nan)]
    outer.UniqueKeys ∧ outer'.UniqueKeys ∧ outer.Reordered outer' ∧ (outer == outer) = true ∧
      (outer == outer') = true ∧ (outer' == outer) = true ∧ outer.same outer' = false ∧
      inner.Reordered inner' ∧ inner.same inner' = true := by
  intro inner inner' outer outer'
  obtain ⟨hequivalence, hreordered, hsame⟩ := beq_equivalence
  have hinner : inner.UniqueKeys := ⟨⟨by simp, trivial, trivial, trivial⟩, trivial⟩
  have hinner' : inner'.UniqueKeys := ⟨⟨by simp, trivial, trivial, trivial⟩, trivial⟩
  have houter : outer.UniqueKeys := ⟨by simp, trivial, hinner, trivial⟩
  have houter' : outer'.UniqueKeys := ⟨by simp, hinner', trivial, trivial⟩
  have hswap : inner.Reordered inner' :=
    ⟨_, rfl, _, _, rfl, ⟨_, _, rfl, .swap _ _ _, _, _, rfl, rfl, _, _, rfl, rfl, rfl⟩, rfl⟩
  have hswap' : outer.Reordered outer' :=
    ⟨_, _, rfl, .swap _ _ _, _, _, rfl, rfl, _, _, rfl, hswap, rfl⟩
  have hequal := hreordered outer outer' houter hswap'
  have hnan : outer.holdsNaN = true := by decide
  refine ⟨houter, houter', hswap', hequivalence.refl ⟨outer, houter⟩, hequal,
    hequivalence.symm (x := ⟨outer, houter⟩) (y := ⟨outer', houter'⟩) hequal, ?_, hswap, ?_⟩
  · rw [Bool.eq_false_iff, ne_eq, hsame, hnan]
    exact fun h => Bool.noConfusion h.2
  · exact (hsame inner inner').2 ⟨hreordered inner inner' hinner hswap, rfl⟩

end RuleBook.Literal
