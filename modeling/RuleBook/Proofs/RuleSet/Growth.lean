import RuleBook.Proofs.Outcome
import RuleBook.Proofs.RuleSet.Query

/-!
# Rule sets that grow

What is added stands behind the rules that are there, and each rule keeps the instant it was
built with.  A question to the longer set is the question to its front, and then to the rest
where the front leaves the answer open.
-/

namespace RuleBook.RuleSet

inductive Addition where
  | add (spec : RuleSpec)
  | addAll (source : RuleSource)
  | merge (other : RuleSet)

def after (set : RuleSet) : Addition → RuleSet
  | .add spec => (set.add spec).1
  | .addAll source => (set.addAll source).1
  | .merge other => (set.merge other).1

theorem addAll_inv {set : RuleSet} {source : RuleSource} {count : Nat}
    (h : (set.addAll source).2 = .ok count) :
    ∃ rules, List.Forall₂ (fun spec rule => set.build spec = .ok rule) (set.specs source) rules ∧
      set.addAll source = ({ set with rules := set.rules ++ rules }, .ok rules.length) := by
  rw [addAll] at h ⊢
  cases hbuild : (set.specs source).mapM set.build with
  | error e =>
      rw [hbuild] at h
      cases h
  | ok rules => exact ⟨rules, forall₂_of_mapM hbuild, rfl⟩

theorem rules_prefix_after (set : RuleSet) (addition : Addition) :
    set.rules <+: (set.after addition).rules := by
  cases addition with
  | add spec =>
      rw [after, add]
      cases set.build spec with
      | ok rule => exact List.prefix_append _ _
      | error e => exact List.prefix_refl _
  | addAll source =>
      rw [after, addAll]
      cases (set.specs source).mapM set.build with
      | ok rules => exact List.prefix_append _ _
      | error e => exact List.prefix_refl _
  | merge other => exact List.prefix_append _ _

theorem rules_prefix_foldl_after (set : RuleSet) (additions : List Addition) :
    set.rules <+: (additions.foldl after set).rules := by
  induction additions generalizing set with
  | nil => exact List.prefix_refl _
  | cons addition additions ih =>
      exact (rules_prefix_after set addition).trans (ih (set.after addition))

section

variable {clock : Instant} {record : Literal}

theorem firstMatch?_append (rules more : List Rule) :
    firstMatch? clock record (rules ++ more) =
      match firstMatch? clock record rules with
      | .ok none => firstMatch? clock record more
      | outcome => outcome := by
  induction rules with
  | nil => rfl
  | cons rule rules ih =>
      rw [List.cons_append, firstMatch?_cons, firstMatch?_cons, ih]
      rcases rule.matchesRecord clock record with e | _ | _ <;> rfl

theorem allMatch_append (rules more : List Rule) :
    allMatch clock record (rules ++ more) =
      match allMatch clock record rules with
      | .ok true => allMatch clock record more
      | outcome => outcome := by
  induction rules with
  | nil => rfl
  | cons rule rules ih =>
      rw [List.cons_append, allMatch_cons, allMatch_cons, ih]
      rcases rule.matchesRecord clock record with e | _ | _ <;> rfl

theorem matching_append (rules more : List Rule) :
    matching clock record (rules ++ more) = do
      let found ← matching clock record rules
      let others ← matching clock record more
      return found ++ others := by
  induction rules with
  | nil =>
      rw [List.nil_append, matching]
      cases matching clock record more <;> rfl
  | cons rule rules ih =>
      rw [List.cons_append, matching_cons, matching_cons, ih]
      cases rule.matchesRecord clock record with
      | error e => rfl
      | ok matched =>
          cases matching clock record rules with
          | error e => rfl
          | ok found =>
              cases matching clock record more with
              | error e => rfl
              | ok others => cases matched <;> rfl

theorem firstMatch?_of_prefix {rules more : List Rule} (hfront : rules <+: more)
    (h : firstMatch? clock record rules ≠ .ok none) :
    firstMatch? clock record more = firstMatch? clock record rules := by
  obtain ⟨rest, rfl⟩ := hfront
  rw [firstMatch?_append]
  split
  · next hnone => exact absurd hnone h
  · rfl

end

/-- Asking a merged set is asking one set after the other, also where both are the same.  Once
the first match for a record is known, no addition changes it. -/
theorem merge_queries (set other : RuleSet) (clock : Instant) (record : Literal) :
    let merged := (set.merge other).1
    (merged.first? clock record =
      match set.first? clock record with
      | .ok none => other.first? clock record
      | outcome => outcome) ∧
    (merged.filter clock record = do
      let found ← set.filter clock record
      let others ← other.filter clock record
      return found ++ others) ∧
    (merged.every clock record =
      match set.every clock record with
      | .ok true => other.every clock record
      | outcome => outcome) ∧
    (merged.any clock record =
      match set.any clock record with
      | .ok false => other.any clock record
      | outcome => outcome) ∧
    ∀ additions : List Addition, set.first? clock record ≠ .ok none →
      (additions.foldl after set).first? clock record = set.first? clock record := by
  intro merged
  have hfirst : merged.first? clock record = _ := firstMatch?_append set.rules other.rules
  refine ⟨hfirst, matching_append _ _, allMatch_append _ _, ?_, fun additions h => ?_⟩
  · rw [any, hfirst, any, any, first?]
    rcases firstMatch? clock record set.rules with e | _ | rule <;> rfl
  · exact firstMatch?_of_prefix (rules_prefix_foldl_after set additions) h

/-- A set merged with itself, and additions of which some fail or have instants of their own. -/
theorem merge_queries_repeated :
    ∃ (set other : RuleSet) (clock : Instant) (record : Literal) (rule : Rule),
      other.now? ≠ set.now? ∧ set.first? clock record = .ok (some rule) ∧
      (set.merge set).1.first? clock record = .ok (some rule) ∧
      (set.merge set).1.filter clock record = .ok [rule, rule] ∧
      set.first? clock record ≠ .ok none ∧
      let additions : List Addition := [.merge set, .add (.sequence .null), .merge other,
        .addAll (.text "\x7ba: true\x7d --> 2;\n\x7b"), .add (.parts .null none "last")]
      (additions.foldl after set).first? clock record = .ok (some rule) := by
  let rule : Rule :=
    { head := .mapping [("a", .bool true)]
      tail := .string "x"
      name := ""
      now? := none
      plan := _
      planned := rfl
      trimmed := rfl }
  let clock : Instant := ⟨0, 0, by decide⟩
  let set : RuleSet := { rules := [rule] }
  let other : RuleSet := { rules := [{ rule with now? := some clock }], now? := some clock }
  let record : Literal := .mapping [("a", .bool true)]
  obtain ⟨hfirst, hfilter, -, -, hadditions⟩ := merge_queries set set clock record
  exact ⟨set, other, clock, record, rule, nofun, rfl, hfirst, hfilter, nofun,
    hadditions _ nofun⟩

end RuleBook.RuleSet
