import RuleBook.Proofs.RuleSet.Bulk
import Mathlib.Algebra.BigOperators.Group.Finset.Piecewise

/-!
# What deleting in bulk leaves

Rules are told apart by what they read as.  Each rule of a source takes the first rule of the
set that reads the same and is not taken yet.  Of every reading as many rules go as the source
holds, the earliest ones first, so the order of the source plays no role.
-/

namespace RuleBook.RuleSet

def readAs (separators : Separators) (text : List Char) (rules : List Rule) : List Rule :=
  rules.filter fun rule => rule.write separators = text

def stays (separators : Separators) (gone rules : List Rule) (place : Rule × Nat) : Bool :=
  let text := place.1.write separators
  (readAs separators text gone).length ≤ (readAs separators text (rules.take place.2)).length

/-- What is left when each rule of `gone` takes the first one that reads the same and is not
taken yet. -/
def unclaimed (separators : Separators) (gone rules : List Rule) : List Rule :=
  (rules.zipIdx.filter (stays separators gone rules)).map Prod.fst

section

variable {separators : Separators} {rule other : Rule} {rules gone gone' : List Rule}
  {text : List Char}

theorem readAs_cons_of_eq (h : rule.write separators = text) :
    readAs separators text (rule :: rules) = rule :: readAs separators text rules :=
  List.filter_cons_of_pos (decide_eq_true h)

theorem readAs_cons_of_ne (h : rule.write separators ≠ text) :
    readAs separators text (rule :: rules) = readAs separators text rules :=
  List.filter_cons_of_neg (by simpa using h)

theorem length_readAs_cons :
    (readAs separators text (rule :: rules)).length =
      (readAs separators text rules).length + if rule.write separators = text then 1 else 0 := by
  by_cases h : rule.write separators = text
  · rw [readAs_cons_of_eq h, if_pos h, List.length_cons]
  · rw [readAs_cons_of_ne h, if_neg h, Nat.add_zero]

theorem eraseAlike_cons_of_eq (h : other.write separators = rule.write separators) :
    eraseAlike separators (other :: rules) rule = rules := by
  simp [eraseAlike, h]

theorem eraseAlike_cons_of_ne (h : other.write separators ≠ rule.write separators) :
    eraseAlike separators (other :: rules) rule =
      other :: eraseAlike separators rules rule := by
  simp [eraseAlike, h]

theorem readAs_eraseAlike :
    readAs separators text (eraseAlike separators rules rule) =
      (readAs separators text rules).drop (if rule.write separators = text then 1 else 0) := by
  induction rules with
  | nil => simp [readAs, eraseAlike]
  | cons other rules ih =>
      by_cases hother : other.write separators = rule.write separators
      · rw [eraseAlike_cons_of_eq hother]
        by_cases htext : rule.write separators = text
        · rw [readAs_cons_of_eq (hother.trans htext), if_pos htext]
          rfl
        · rw [readAs_cons_of_ne (hother ▸ htext), if_neg htext]
          rfl
      · rw [eraseAlike_cons_of_ne hother]
        by_cases htext : other.write separators = text
        · have hrule : rule.write separators ≠ text := fun h => hother (htext.trans h.symm)
          rw [readAs_cons_of_eq htext, readAs_cons_of_eq htext, ih, if_neg hrule]
          rfl
        · rw [readAs_cons_of_ne htext, readAs_cons_of_ne htext, ih]

theorem foldl_eraseAlike_nil : gone.foldl (eraseAlike separators) [] = [] := by
  induction gone with
  | nil => rfl
  | cons rule gone ih => exact ih

theorem foldl_eraseAlike_cons :
    gone.foldl (eraseAlike separators) (rule :: rules) =
      if readAs separators (rule.write separators) gone = [] then
        rule :: gone.foldl (eraseAlike separators) rules
      else (eraseAlike separators gone rule).foldl (eraseAlike separators) rules := by
  induction gone generalizing rules with
  | nil => rfl
  | cons other gone ih =>
      by_cases h : other.write separators = rule.write separators
      · rw [List.foldl_cons, eraseAlike_cons_of_eq h.symm, eraseAlike_cons_of_eq h,
          readAs_cons_of_eq h, if_neg (List.cons_ne_nil _ _)]
      · rw [List.foldl_cons, eraseAlike_cons_of_ne (Ne.symm h), eraseAlike_cons_of_ne h,
          readAs_cons_of_ne h, ih]
        rfl

/-- Here `gone` is what the rules in front of these have left of `all`. -/
theorem foldl_eraseAlike_eq {all earlier : List Rule}
    (h : ∀ text, (readAs separators text gone).length =
      (readAs separators text all).length - (readAs separators text earlier).length) :
    gone.foldl (eraseAlike separators) rules =
      ((rules.zipIdx earlier.length).filter (stays separators all (earlier ++ rules))).map
        Prod.fst := by
  induction rules generalizing gone earlier with
  | nil => exact foldl_eraseAlike_nil
  | cons rule rules ih =>
      have hstays : stays separators all (earlier ++ rule :: rules) (rule, earlier.length) = true ↔
          readAs separators (rule.write separators) gone = [] := by
        rw [← List.length_eq_zero_iff, h, stays, List.take_left, decide_eq_true_iff]
        exact Nat.sub_eq_zero_iff_le.symm
      have hearlier (text : List Char) : (readAs separators text (earlier ++ [rule])).length =
          (readAs separators text earlier).length +
            if rule.write separators = text then 1 else 0 := by
        have hone := @length_readAs_cons separators rule [] text
        rw [readAs, List.filter_append, List.length_append, ← readAs, ← readAs, hone]
        exact congrArg _ (Nat.zero_add _)
      rw [foldl_eraseAlike_cons, List.zipIdx_cons, List.filter_cons]
      by_cases hgone : readAs separators (rule.write separators) gone = []
      · have hih := @ih gone (earlier ++ [rule]) fun text => by
          rw [h, hearlier]
          split
          · next heq =>
            have hzero := h (rule.write separators)
            rw [hgone, List.length_nil, heq] at hzero
            omega
          · rfl
        rw [if_pos hgone, if_pos (hstays.2 hgone), hih]
        simp
      · have hih := @ih (eraseAlike separators gone rule) (earlier ++ [rule]) fun text => by
          rw [readAs_eraseAlike, List.length_drop, h, hearlier, Nat.sub_sub]
        rw [if_neg hgone, if_neg (mt hstays.1 hgone), hih]
        simp

theorem unclaimed_eq_foldl :
    unclaimed separators gone rules = gone.foldl (eraseAlike separators) rules :=
  (@foldl_eraseAlike_eq separators rules gone gone [] fun _ => rfl).symm

theorem unclaimed_sublist : List.Sublist (unclaimed separators gone rules) rules := by
  have hsublist := (List.filter_sublist (p := stays separators gone rules)
    (l := rules.zipIdx)).map Prod.fst
  rwa [List.zipIdx_map_fst] at hsublist

theorem unclaimed_perm (h : gone.Perm gone') :
    unclaimed separators gone rules = unclaimed separators gone' rules := by
  have hstays : stays separators gone rules = stays separators gone' rules := by
    funext place
    rw [stays, stays, readAs, (h.filter _).length_eq, ← readAs]
  rw [unclaimed, hstays, unclaimed]

theorem unclaimed_self : unclaimed separators rules rules = [] := by
  rw [unclaimed_eq_foldl]
  induction rules with
  | nil => rfl
  | cons rule rules ih => rw [List.foldl_cons, eraseAlike_cons_of_eq rfl, ih]

theorem readAs_unclaimed :
    readAs separators text (unclaimed separators gone rules) =
      (readAs separators text rules).drop (readAs separators text gone).length := by
  rw [unclaimed_eq_foldl]
  induction gone generalizing rules with
  | nil => rfl
  | cons rule gone ih =>
      rw [List.foldl_cons, ih, readAs_eraseAlike, List.drop_drop]
      by_cases htext : rule.write separators = text
      · rw [if_pos htext, readAs_cons_of_eq htext, List.length_cons, Nat.add_comm]
      · rw [if_neg htext, readAs_cons_of_ne htext, Nat.zero_add]

theorem sum_length_readAs {texts : Finset (List Char)}
    (h : ∀ rule ∈ rules, rule.write separators ∈ texts) :
    ∑ text ∈ texts, (readAs separators text rules).length = rules.length := by
  induction rules with
  | nil => simp [readAs]
  | cons rule rules ih =>
      obtain ⟨hrule, hrules⟩ := List.forall_mem_cons.1 h
      simp only [length_readAs_cons]
      rw [Finset.sum_add_distrib, ih hrules, Finset.sum_ite_eq, if_pos hrule, List.length_cons]

theorem length_unclaimed :
    (unclaimed separators gone rules).length +
      ∑ text ∈ (rules.map (Rule.write separators)).toFinset,
        min (readAs separators text gone).length (readAs separators text rules).length =
      rules.length := by
  have hmem : ∀ rule ∈ rules,
      rule.write separators ∈ (rules.map (Rule.write separators)).toFinset := fun rule hrule =>
    List.mem_toFinset.2 (List.mem_map_of_mem hrule)
  rw [← sum_length_readAs hmem,
    ← sum_length_readAs fun rule hrule => hmem rule (unclaimed_sublist.subset hrule),
    ← Finset.sum_add_distrib]
  refine Finset.sum_congr rfl fun text _ => ?_
  rw [readAs_unclaimed, List.length_drop]
  omega

end

section

variable {set : RuleSet} {source : RuleSource} {gone : List Rule}

theorem deleteAll_eq_unclaimed (h : set.Builds (set.specs source) gone) :
    set.deleteAll source = ({ set with rules := unclaimed set.separators gone set.rules },
      .ok (set.rules.length - (unclaimed set.separators gone set.rules).length)) := by
  rw [deleteAll_of_builds h, without, ← unclaimed_eq_foldl]

end

/-- Deleting a source takes away, of every reading, the earliest rules of the set, as many as
the source holds, and keeps the other rules in their order.  The order of the source plays no
role, and a set loses all of its own rules. -/
theorem deleteAll_unclaimed (set : RuleSet) (source : RuleSource)
    (h : ∀ spec ∈ set.specs source, (set.build spec).isOk = true) :
    ∃ gone left count, set.Builds (set.specs source) gone ∧
      set.deleteAll source = ({ set with rules := left }, .ok count) ∧
      left = unclaimed set.separators gone set.rules ∧
      (∀ text, readAs set.separators text left =
        (readAs set.separators text set.rules).drop
          (min (readAs set.separators text gone).length
            (readAs set.separators text set.rules).length)) ∧
      left.length + count = set.rules.length ∧
      count = ∑ text ∈ (set.rules.map (Rule.write set.separators)).toFinset,
        min (readAs set.separators text gone).length
          (readAs set.separators text set.rules).length ∧
      (∀ specs, specs.Perm (set.specs source) →
        set.deleteAll (.specs specs) = set.deleteAll source) ∧
      set.deleteAll set.source = ({ set with rules := [] }, .ok set.rules.length) := by
  obtain ⟨gone, hgone⟩ := exists_builds h
  have hlength := @length_unclaimed set.separators set.rules gone
  refine ⟨gone, unclaimed set.separators gone set.rules, _, hgone, deleteAll_eq_unclaimed hgone,
    rfl, fun text => ?_, by omega, by omega, fun specs hperm => ?_, ?_⟩
  · rw [readAs_unclaimed, List.drop_eq_drop_iff]
    omega
  · obtain ⟨gone', hgone', hperm'⟩ := List.perm_comp_forall₂ hperm hgone
    rw [deleteAll_eq_unclaimed hgone, @deleteAll_eq_unclaimed set (.specs specs) gone' hgone',
      unclaimed_perm hperm']
  · rw [@deleteAll_eq_unclaimed set set.source _ (builds_rules set set.rules), unclaimed_self]
    rfl

/-- Three specs that read the same, one of them given as its parts, where the set has two such
rules around another one. -/
theorem deleteAll_unclaimed_repeated :
    ∃ (set : RuleSet) (rule other : Rule) (specs : List RuleSpec), set.rules = [rule, other, rule] ∧
      (∀ spec ∈ set.specs (.specs specs), (set.build spec).isOk = true) ∧ specs.length = 3 ∧
      set.deleteAll (.specs specs) = ({ set with rules := [other] }, .ok 2) ∧
      (∀ specs', specs'.Perm specs →
        set.deleteAll (.specs specs') = ({ set with rules := [other] }, .ok 2)) ∧
      set.deleteAll set.source = ({ set with rules := [] }, .ok 3) := by
  let rule : Rule :=
    { head := .mapping [("a", .bool true)]
      tail := .string "x"
      name := ""
      now? := none
      plan := _
      planned := rfl
      trimmed := rfl }
  let other : Rule := { rule with tail := .string "y" }
  let set : RuleSet := { rules := [rule, other, rule] }
  let specs : List RuleSpec := [.rule rule, .parts rule.head (some rule.tail) "", .rule rule]
  have hother : other.write {} ≠ rule.write {} := by decide
  have hgone : set.Builds (set.specs (.specs specs)) [rule, rule, rule] :=
    .cons rfl (.cons rfl (.cons rfl .nil))
  have hbuild := hgone.isOk
  have hdeleted : set.deleteAll (.specs specs) = ({ set with rules := [other] }, .ok 2) := by
    rw [deleteAll_eq_unclaimed hgone, unclaimed_eq_foldl]
    simp [set, eraseAlike, hother]
  obtain ⟨_, _, _, -, -, -, -, -, -, hperm, hself⟩ := deleteAll_unclaimed set (.specs specs) hbuild
  exact ⟨set, rule, other, specs, rfl, hbuild, rfl, hdeleted,
    fun specs' h => (hperm specs' h).trans hdeleted, hself⟩

end RuleBook.RuleSet
