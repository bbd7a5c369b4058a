import Mathlib.Data.List.Forall2

/-!
# Chains of steps that can fail

A chain ends in a result or at the first failure.  A chain that ended in a result had one from
every step; one that failed did so at one of them.
-/

namespace RuleBook

variable {ε α β : Type} {a : Except ε α} {e : ε}

theorem isOk_bind (a : Except ε α) (b : Except ε β) :
    (a >>= fun _ => b).isOk = (a.isOk && b.isOk) := by
  cases a <;> rfl

theorem isOk_bind_ok (a : Except ε α) (f : α → β) :
    (a >>= fun x => .ok (f x)).isOk = a.isOk := by
  cases a <;> rfl

theorem isOk_iff_exists : a.isOk = true ↔ ∃ x, a = .ok x := by
  cases a <;> simp [Except.isOk, Except.toBool]

theorem bind_eq_ok {f : α → Except ε β} {y : β} (h : (a >>= f) = .ok y) :
    ∃ x, a = .ok x ∧ f x = .ok y := by
  cases a with
  | error e => cases h
  | ok x => exact ⟨x, rfl, h⟩

theorem map_eq_ok {f : α → β} {y : β} (h : f <$> a = .ok y) : ∃ x, a = .ok x ∧ f x = y := by
  cases a with
  | error e => cases h
  | ok x => exact ⟨x, rfl, Except.ok.inj h⟩

theorem bind_eq_error {f : α → Except ε β} (h : (a >>= f) = .error e) :
    a = .error e ∨ ∃ x, a = .ok x ∧ f x = .error e := by
  cases a with
  | error e' =>
      cases h
      exact .inl rfl
  | ok x => exact .inr ⟨x, rfl, h⟩

theorem error_of_bind_ok {f : α → β} (h : (a >>= fun x => .ok (f x)) = .error e) :
    a = .error e := by
  rcases bind_eq_error h with ha | ⟨x, -, hx⟩
  · exact ha
  · cases hx

theorem forall₂_of_mapM {f : α → Except ε β} {xs : List α} {ys : List β}
    (h : xs.mapM f = .ok ys) : List.Forall₂ (fun x y => f x = .ok y) xs ys := by
  induction xs generalizing ys with
  | nil =>
      cases h
      exact .nil
  | cons x xs ih =>
      rw [List.mapM_cons] at h
      obtain ⟨y, hy, h⟩ := bind_eq_ok h
      obtain ⟨more, hmore, h⟩ := bind_eq_ok h
      cases h
      exact .cons hy (ih hmore)

theorem mapM_eq_ok_iff {f : α → Except ε β} {xs : List α} {ys : List β} :
    xs.mapM f = .ok ys ↔ List.Forall₂ (fun x y => f x = .ok y) xs ys := by
  refine ⟨forall₂_of_mapM, fun h => ?_⟩
  induction h with
  | nil => rfl
  | cons hy _ ih =>
      rw [List.mapM_cons, hy, ih]
      rfl

theorem mapM_eq_error_iff {f : α → Except ε β} {xs : List α} :
    xs.mapM f = .error e ↔ ∃ earlier x later ys, xs = earlier ++ x :: later ∧
      List.Forall₂ (fun x y => f x = .ok y) earlier ys ∧ f x = .error e := by
  constructor
  · intro h
    induction xs with
    | nil => cases h
    | cons x xs ih =>
        rw [List.mapM_cons] at h
        rcases bind_eq_error h with hx | ⟨y, hy, h⟩
        · exact ⟨[], x, xs, [], rfl, .nil, hx⟩
        · obtain ⟨earlier, failing, later, ys, rfl, hearlier, he⟩ := ih (error_of_bind_ok h)
          exact ⟨x :: earlier, failing, later, y :: ys, rfl, .cons hy hearlier, he⟩
  · rintro ⟨earlier, x, later, ys, rfl, hearlier, he⟩
    rw [List.mapM_append, mapM_eq_ok_iff.2 hearlier, List.mapM_cons, he]
    rfl

theorem exists_of_forall₂ {R : α → β → Prop} {xs : List α} {ys : List β} {y : β}
    (h : List.Forall₂ R xs ys) (hy : y ∈ ys) : ∃ x ∈ xs, R x y := by
  induction h with
  | nil => cases hy
  | cons hxy _ ih =>
      rcases List.mem_cons.1 hy with rfl | hy
      · exact ⟨_, List.mem_cons_self, hxy⟩
      · obtain ⟨x, hx, hxy⟩ := ih hy
        exact ⟨x, List.mem_cons_of_mem _ hx, hxy⟩

end RuleBook
