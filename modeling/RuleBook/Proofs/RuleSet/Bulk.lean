import RuleBook.Proofs.RuleSet.Growth

/-!
# Rules added and deleted in bulk

A source is built spec by spec, up to the first one that cannot be built.  Adding builds all of
a source before it stores any of it, so it does what single additions do one after the other,
or nothing at all.  Deleting removes each rule as soon as it is built, so what stands before a
spec that fails is gone.
-/

namespace RuleBook.RuleSet

def Builds (set : RuleSet) (specs : List RuleSpec) (rules : List Rule) : Prop :=
  List.Forall₂ (fun spec rule => set.build spec = .ok rule) specs rules

/-- The earliest spec that cannot be built fails with this error, and those before it are built
into these rules. -/
def BreaksOff (set : RuleSet) (specs : List RuleSpec) (rules : List Rule) (e : Error) : Prop :=
  ∃ earlier spec later, specs = earlier ++ spec :: later ∧ set.Builds earlier rules ∧
    set.build spec = .error e

section

variable {set : RuleSet} {specs : List RuleSpec} {rules : List Rule} {e : Error}

@[simp] theorem build_withRules (set : RuleSet) (rules : List Rule) :
    ({ set with rules } : RuleSet).build = set.build := by
  funext spec
  cases spec <;> rfl

@[simp] theorem builds_withRules (more : List Rule) :
    ({ set with rules := more } : RuleSet).Builds specs rules ↔ set.Builds specs rules := by
  rw [Builds, build_withRules, Builds]

theorem breaksOff_iff : (∃ rules, set.BreaksOff specs rules e) ↔ specs.mapM set.build = .error e := by
  rw [mapM_eq_error_iff]
  constructor
  · rintro ⟨rules, earlier, spec, later, hspecs, hearlier, he⟩
    exact ⟨earlier, spec, later, rules, hspecs, hearlier, he⟩
  · rintro ⟨earlier, spec, later, rules, hspecs, hearlier, he⟩
    exact ⟨rules, earlier, spec, later, hspecs, hearlier, he⟩

theorem builds_or_breaksOff (set : RuleSet) (specs : List RuleSpec) :
    (∃ rules, set.Builds specs rules) ∨ ∃ rules e, set.BreaksOff specs rules e := by
  cases h : specs.mapM set.build with
  | ok rules => exact .inl ⟨rules, mapM_eq_ok_iff.1 h⟩
  | error e =>
      obtain ⟨rules, hbreaks⟩ := breaksOff_iff.2 h
      exact .inr ⟨rules, e, hbreaks⟩

theorem Builds.isOk (h : set.Builds specs rules) : ∀ spec ∈ specs, (set.build spec).isOk = true := by
  intro spec hspec
  obtain ⟨rule, -, hrule⟩ := exists_of_forall₂ (List.Forall₂.flip h) hspec
  exact isOk_iff_exists.2 ⟨rule, hrule⟩

theorem exists_builds (h : ∀ spec ∈ specs, (set.build spec).isOk = true) :
    ∃ rules, set.Builds specs rules := by
  rcases builds_or_breaksOff set specs with hbuilds | ⟨_, e, earlier, spec, later, rfl, -, he⟩
  · exact hbuilds
  · have hspec := h spec (by simp)
    rw [he] at hspec
    cases hspec

theorem builds_rules (set : RuleSet) (rules : List Rule) : set.Builds (rules.map .rule) rules := by
  rw [Builds, List.forall₂_map_left_iff]
  exact List.forall₂_same.2 fun _ _ => rfl

end

/-- Adds one after the other, up to the first spec that cannot be built; what was added before
it stays. -/
def addEach (set : RuleSet) (added : Nat) : List RuleSpec → RuleSet × Except Error Nat
  | [] => (set, .ok added)
  | spec :: specs =>
      match set.add spec with
      | (grown, .error e) => (grown, .error e)
      | (grown, .ok _) => addEach grown (added + 1) specs

section

variable {set : RuleSet} {source : RuleSource} {specs earlier : List RuleSpec}
  {rules : List Rule} {spec : RuleSpec} {rule : Rule} {e : Error}

theorem add_of_build (h : set.build spec = .ok rule) :
    set.add spec = ({ set with rules := set.rules ++ [rule] }, .ok rule) := by
  rw [add, h]

theorem add_of_error (h : set.build spec = .error e) : set.add spec = (set, .error e) := by
  rw [add, h]

theorem addEach_cons (h : set.build spec = .ok rule) (added : Nat) (specs : List RuleSpec) :
    addEach set added (spec :: specs) =
      addEach { set with rules := set.rules ++ [rule] } (added + 1) specs := by
  rw [addEach, add_of_build h]

theorem addEach_append (h : set.Builds earlier rules) (added : Nat) (specs : List RuleSpec) :
    addEach set added (earlier ++ specs) =
      addEach { set with rules := set.rules ++ rules } (added + rules.length) specs := by
  induction earlier generalizing set rules added with
  | nil =>
      cases h
      rw [List.append_nil]
      rfl
  | cons spec earlier ih =>
      obtain _ | ⟨hrule, hearlier⟩ := h
      rw [List.cons_append, addEach_cons hrule, ih ((builds_withRules _).2 hearlier),
        List.append_assoc, List.length_cons, Nat.add_right_comm, Nat.add_assoc]
      rfl

theorem addEach_of_builds (h : set.Builds specs rules) :
    addEach set 0 specs = ({ set with rules := set.rules ++ rules }, .ok rules.length) := by
  have heach := addEach_append h 0 []
  rwa [List.append_nil, addEach, Nat.zero_add] at heach

theorem addEach_of_breaksOff (h : set.BreaksOff specs rules e) :
    addEach set 0 specs = ({ set with rules := set.rules ++ rules }, .error e) := by
  obtain ⟨earlier, spec, later, rfl, hearlier, he⟩ := h
  rw [addEach_append hearlier, addEach, add_of_error (by rwa [build_withRules])]

theorem addAll_of_builds (h : set.Builds (set.specs source) rules) :
    set.addAll source = ({ set with rules := set.rules ++ rules }, .ok rules.length) := by
  rw [addAll, mapM_eq_ok_iff.2 h]

theorem addAll_of_breaksOff (h : set.BreaksOff (set.specs source) rules e) :
    set.addAll source = (set, .error e) := by
  rw [addAll, breaksOff_iff.1 ⟨rules, h⟩]

theorem addAll_eq_error_iff :
    (set.addAll source).2 = .error e ↔ ∃ rules, set.BreaksOff (set.specs source) rules e := by
  rw [breaksOff_iff, addAll]
  cases (set.specs source).mapM set.build <;> simp

theorem isOk_addAll_iff :
    (set.addAll source).2.isOk = true ↔
      ∀ spec ∈ set.specs source, (set.build spec).isOk = true := by
  refine ⟨fun h => ?_, fun h => ?_⟩
  · rcases builds_or_breaksOff set (set.specs source) with ⟨rules, hbuilds⟩ | ⟨rules, e, hbreaks⟩
    · exact hbuilds.isOk
    · rw [addAll_of_breaksOff hbreaks] at h
      cases h
  · obtain ⟨rules, hbuilds⟩ := exists_builds h
    rw [addAll_of_builds hbuilds]
    rfl

theorem addAll_of_error (h : (set.addAll source).2 = .error e) : (set.addAll source).1 = set := by
  obtain ⟨rules, hbreaks⟩ := addAll_eq_error_iff.1 h
  rw [addAll_of_breaksOff hbreaks]

end

/-- Adding in bulk is adding one after the other, with the set left alone when that comes to a
spec that cannot be built.  It fails when there is such a spec, with the error of the earliest,
and otherwise gives the number of specs, which for a text are its pieces that are not blank. -/
theorem addAll_eq_addEach (set : RuleSet) (source : RuleSource) :
    (set.addAll source =
      match addEach set 0 (set.specs source) with
      | (grown, .ok count) => (grown, .ok count)
      | (_, .error e) => (set, .error e)) ∧
    ((set.addAll source).2.isOk = true ↔
      ∀ spec ∈ set.specs source, (set.build spec).isOk = true) ∧
    (∀ e, (set.addAll source).2 = .error e ↔
      ∃ rules, set.BreaksOff (set.specs source) rules e) ∧
    (∀ e, (set.addAll source).2 = .error e → (set.addAll source).1 = set) ∧
    (∀ count, (set.addAll source).2 = .ok count →
      count = (set.specs source).length ∧
      ∃ rules, set.Builds (set.specs source) rules ∧
        (set.addAll source).1 = { set with rules := set.rules ++ rules }) ∧
    (∀ text, source = .text text → (set.specs source).length =
      (Text.splitOn set.separators.rule.toList text.toList).countP fun piece =>
        !piece.all Text.isBlank) ∧
    ∀ other, source = RuleSet.source other → set.addAll source =
      ({ set with rules := set.rules ++ other.rules }, .ok other.rules.length) := by
  refine ⟨?_, isOk_addAll_iff, fun e => addAll_eq_error_iff, fun e => addAll_of_error,
    fun count h => ?_, ?_, ?_⟩
  · rcases builds_or_breaksOff set (set.specs source) with ⟨rules, h⟩ | ⟨rules, e, h⟩
    · rw [addAll_of_builds h, addEach_of_builds h]
    · rw [addAll_of_breaksOff h, addEach_of_breaksOff h]
  · obtain ⟨rules, hbuilds, hgrown⟩ := addAll_inv h
    rw [hgrown] at h ⊢
    cases h
    exact ⟨hbuilds.length_eq.symm, rules, hbuilds, rfl⟩
  · rintro text rfl
    rw [specs, List.length_map, List.countP_eq_length_filter]
  · rintro other rfl
    exact addAll_of_builds (builds_rules set other.rules)

/-- Specs of which the second cannot be built, a set added to itself, and a text with blank
pieces. -/
theorem addAll_eq_addEach_blocked :
    ∃ (set : RuleSet) (rule : Rule) (specs : List RuleSpec) (e : Error) (text : String),
      (set.addAll (.specs specs)).2 = .error e ∧ (set.addAll (.specs specs)).1 = set ∧
      (addEach set 0 specs).1.rules.length = 2 ∧
      set.addAll set.source = ({ set with rules := [rule, rule] }, .ok 1) ∧
      text = "null;\n ;\n" ∧ (set.specs (.text text)).length = 1 := by
  let rule : Rule :=
    { head := .mapping [("a", .bool true)]
      tail := .string "x"
      name := ""
      now? := none
      plan := _
      planned := rfl
      trimmed := rfl }
  let set : RuleSet := { rules := [rule] }
  let specs : List RuleSpec := [.parts .null none "", .sequence .null]
  obtain ⟨-, -, -, hkept, -⟩ := addAll_eq_addEach set (.specs specs)
  obtain ⟨-, -, -, -, -, -, hother⟩ := addAll_eq_addEach set set.source
  obtain ⟨-, -, -, -, -, htext, -⟩ := addAll_eq_addEach set (.text "null;\n ;\n")
  have he : (set.addAll (.specs specs)).2 = .error (.invalidRule (.parts "null".toList)) := rfl
  exact ⟨set, rule, specs, _, _, he, hkept _ he, rfl, hother set rfl, rfl,
    (htext _ rfl).trans (by decide)⟩

def eraseAlike (separators : Separators) (rules : List Rule) (rule : Rule) : List Rule :=
  rules.eraseP fun other => other.write separators = rule.write separators

def without (set : RuleSet) (gone : List Rule) : RuleSet :=
  { set with rules := gone.foldl (eraseAlike set.separators) set.rules }

section

variable {set : RuleSet} {source : RuleSource} {specs earlier : List RuleSpec}
  {rules gone : List Rule} {spec : RuleSpec} {rule : Rule} {separators : Separators} {e : Error}

theorem eraseText?_eq (separators : Separators) (rule : Rule) (rules : List Rule) :
    eraseText? separators (rule.write separators) rules =
      if ∃ other ∈ rules, other.write separators = rule.write separators then
        some (eraseAlike separators rules rule)
      else none := by
  induction rules with
  | nil => simp [eraseText?]
  | cons other rules ih =>
      by_cases hother : other.write separators = rule.write separators
      · simp [eraseText?, eraseAlike, hother]
      · by_cases hrules : ∃ other ∈ rules, other.write separators = rule.write separators
        · simp [eraseText?, eraseAlike, hother, ih, hrules]
        · simp [eraseText?, hother, ih, hrules]

theorem eraseAlike_eq_self_iff :
    eraseAlike separators rules rule = rules ↔
      ∀ other ∈ rules, other.write separators ≠ rule.write separators := by
  simp [eraseAlike]

theorem builds_without : (set.without gone).Builds specs rules ↔ set.Builds specs rules :=
  builds_withRules _

theorem without_eq_self (h : (set.without gone).rules = set.rules) : set.without gone = set :=
  congrArg (fun rules => { set with rules }) h

theorem without_cons (set : RuleSet) (rule : Rule) (gone : List Rule) :
    set.without (rule :: gone) = (set.without [rule]).without gone := rfl

theorem rules_without_sublist (set : RuleSet) (gone : List Rule) :
    List.Sublist (set.without gone).rules set.rules := by
  induction gone generalizing set with
  | nil => exact List.Sublist.refl _
  | cons rule gone ih => exact (ih (set.without [rule])).trans List.eraseP_sublist

theorem rules_without_eq_self_iff :
    (set.without gone).rules = set.rules ↔ ∀ rule ∈ gone, ∀ other ∈ set.rules,
      other.write set.separators ≠ rule.write set.separators := by
  induction gone with
  | nil => simp [without]
  | cons rule gone ih =>
      rw [List.forall_mem_cons, ← eraseAlike_eq_self_iff, ← ih, without_cons]
      constructor
      · intro h
        have hsublist := rules_without_sublist (set.without [rule]) gone
        rw [h] at hsublist
        have hfirst : (set.without [rule]).rules = set.rules :=
          List.eraseP_sublist.antisymm hsublist
        rw [without_eq_self hfirst] at h
        exact ⟨hfirst, h⟩
      · rintro ⟨hfirst, h⟩
        rw [@without_eq_self set [rule] hfirst, h]

theorem delete_of_build (h : set.build spec = .ok rule) :
    ∃ found, set.delete spec = (set.without [rule], .ok found) ∧
      set.rules.length = (set.without [rule]).rules.length + found.toNat := by
  have herase := eraseText?_eq set.separators rule set.rules
  by_cases hfound : ∃ other ∈ set.rules, other.write set.separators = rule.write set.separators
  · rw [if_pos hfound] at herase
    obtain ⟨other, hother, halike⟩ := hfound
    have hlength : (set.without [rule]).rules.length = set.rules.length - 1 :=
      List.length_eraseP_of_mem hother (decide_eq_true halike)
    have hpositive := List.length_pos_of_mem hother
    refine ⟨true, ?_, by rw [hlength, Bool.toNat_true]; omega⟩
    simp only [delete, h, herase]
    rfl
  · rw [if_neg hfound] at herase
    have hself : (set.without [rule]).rules = set.rules :=
      eraseAlike_eq_self_iff.2 fun other hother halike => hfound ⟨other, hother, halike⟩
    refine ⟨false, ?_, by rw [hself]; rfl⟩
    rw [without_eq_self hself]
    simp only [delete, h, herase]

theorem delete_of_error (h : set.build spec = .error e) : set.delete spec = (set, .error e) := by
  rw [delete, h]

theorem deleteEach_append (h : set.Builds earlier gone) (deleted : Nat)
    (specs : List RuleSpec) :
    deleteEach set deleted (earlier ++ specs) =
      deleteEach (set.without gone)
        (deleted + (set.rules.length - (set.without gone).rules.length)) specs := by
  induction earlier generalizing set gone deleted with
  | nil =>
      cases h
      simp [without]
  | cons spec earlier ih =>
      obtain _ | @⟨_, rule, _, gone, hrule, hearlier⟩ := h
      obtain ⟨found, hdelete, hlength⟩ := delete_of_build hrule
      have hless := (rules_without_sublist (set.without [rule]) gone).length_le
      have hcount : (if found = true then deleted + 1 else deleted) +
            ((set.without [rule]).rules.length -
              ((set.without [rule]).without gone).rules.length) =
          deleted + (set.rules.length - ((set.without [rule]).without gone).rules.length) := by
        cases found <;> simp only [Bool.toNat_true, Bool.toNat_false] at hlength <;> simp <;> omega
      rw [List.cons_append, deleteEach, hdelete, without_cons set rule gone, ← hcount]
      exact ih (builds_without.2 hearlier) _

theorem deleteAll_of_builds (h : set.Builds (set.specs source) gone) :
    set.deleteAll source =
      (set.without gone, .ok (set.rules.length - (set.without gone).rules.length)) := by
  have heach := deleteEach_append h 0 []
  rwa [List.append_nil, Nat.zero_add, deleteEach] at heach

theorem deleteAll_of_breaksOff (h : set.BreaksOff (set.specs source) gone e) :
    set.deleteAll source = (set.without gone, .error e) := by
  obtain ⟨earlier, spec, later, hspecs, hearlier, he⟩ := h
  rw [deleteAll, hspecs, deleteEach_append hearlier, deleteEach,
    delete_of_error (by rwa [without, build_withRules])]

end

/-- Deleting in bulk fails when some spec cannot be built, with the error of the earliest.  The
rules built before it are gone by then, so the set keeps its rules only where none of them
reads the same as one of those. -/
theorem deleteAll_broken_off (set : RuleSet) (source : RuleSource) :
    (∀ e, (set.deleteAll source).2 = .error e ↔
      ∃ gone, set.BreaksOff (set.specs source) gone e) ∧
    ∀ gone e, set.BreaksOff (set.specs source) gone e →
      (set.deleteAll source).1 = set.without gone ∧
      ((set.deleteAll source).1.rules = set.rules ↔ ∀ rule ∈ gone, ∀ other ∈ set.rules,
        other.write set.separators ≠ rule.write set.separators) := by
  refine ⟨fun e => ?_, fun gone e h => ?_⟩
  · rcases builds_or_breaksOff set (set.specs source) with ⟨gone, h⟩ | ⟨gone, e', h⟩
    · rw [deleteAll_of_builds h, breaksOff_iff, mapM_eq_ok_iff.2 h]
      simp
    · rw [deleteAll_of_breaksOff h, breaksOff_iff, breaksOff_iff.1 ⟨gone, h⟩]
      simp
  · rw [deleteAll_of_breaksOff h]
    exact ⟨rfl, rules_without_eq_self_iff⟩

/-- A spec that cannot be built behind one that reads the same as the only rule. -/
theorem deleteAll_broken_off_emptied :
    ∃ (set : RuleSet) (rule : Rule) (specs : List RuleSpec) (e : Error),
      set.rules = [rule] ∧ set.BreaksOff specs [rule] e ∧
      (set.deleteAll (.specs specs)).2 = .error e ∧
      (set.deleteAll (.specs specs)).1 = { set with rules := [] } ∧
      (set.deleteAll (.specs specs)).1.rules ≠ set.rules := by
  let rule : Rule :=
    { head := .mapping [("a", .bool true)]
      tail := .string "x"
      name := ""
      now? := none
      plan := _
      planned := rfl
      trimmed := rfl }
  let set : RuleSet := { rules := [rule] }
  let specs : List RuleSpec := [.parts rule.head (some rule.tail) "", .sequence .null]
  obtain ⟨hfails, hleft⟩ := deleteAll_broken_off set (.specs specs)
  have hbreaks : set.BreaksOff specs [rule] (.invalidRule (.parts "null".toList)) :=
    ⟨[_], _, [], rfl, .cons rfl .nil, rfl⟩
  obtain ⟨hgone, hkept⟩ := hleft _ _ hbreaks
  have hempty : (set.deleteAll (.specs specs)).1 = { set with rules := [] } := by
    rw [hgone]
    simp [without, eraseAlike, set]
  refine ⟨set, rule, specs, _, rfl, hbreaks, (hfails _).2 ⟨_, hbreaks⟩, hempty, fun hkeeps => ?_⟩
  exact hkept.1 hkeeps rule (by simp) rule (by simp [set]) rfl

end RuleBook.RuleSet
