import RuleBook.RuleSet.Query

/-!
# Rule sets asked about a record

A rule matches a record, does not match it, or fails on it.  Every question asks the rules in
their order, and the questions differ in what makes them stop: a failure always does, and also
the first rule that matches, or the first one that does not.
-/

namespace RuleBook

/-- A rule that fails on a record does not match it. -/
def Rule.isMatch (clock : Instant) (record : Literal) (rule : Rule) : Bool :=
  (rule.matchesRecord clock record).toOption == some true

namespace RuleSet

/-- The rule stands behind rules after which a question goes on. -/
def Reaches (goesOn : Rule → Prop) (rules : List Rule) (rule : Rule) : Prop :=
  ∃ before after, rules = before ++ rule :: after ∧ ∀ other ∈ before, goesOn other

def FailsPast (clock : Instant) (record : Literal) (goesOn : Rule → Prop) (rules : List Rule)
    (e : Error) : Prop :=
  ∃ rule, Reaches goesOn rules rule ∧ rule.matchesRecord clock record = .error e

variable {clock : Instant} {record : Literal} {goesOn : Rule → Prop} {rule other : Rule}
  {rules : List Rule} {e : Error}

@[simp] theorem not_reaches_nil : ¬Reaches goesOn [] rule := by
  rintro ⟨before, after, heq, -⟩
  simp at heq

@[simp] theorem reaches_cons :
    Reaches goesOn (other :: rules) rule ↔
      other = rule ∨ goesOn other ∧ Reaches goesOn rules rule := by
  constructor
  · rintro ⟨before, after, heq, hbefore⟩
    cases before with
    | nil => exact .inl (List.cons.inj heq).1
    | cons first before =>
        obtain ⟨rfl, rfl⟩ := List.cons.inj heq
        obtain ⟨hfirst, hbefore⟩ := List.forall_mem_cons.1 hbefore
        exact .inr ⟨hfirst, before, after, rfl, hbefore⟩
  · rintro (rfl | ⟨hother, before, after, rfl, hbefore⟩)
    · exact ⟨[], rules, rfl, by simp⟩
    · exact ⟨other :: before, after, rfl, List.forall_mem_cons.2 ⟨hother, hbefore⟩⟩

theorem reaches_iff_getElem? :
    Reaches goesOn rules rule ↔ ∃ place : Nat, rules[place]? = some rule ∧
      ∀ (earlier : Nat) other, earlier < place → rules[earlier]? = some other →
        goesOn other := by
  constructor
  · rintro ⟨before, after, rfl, hbefore⟩
    refine ⟨before.length, by simp, fun earlier other hearlier hother => hbefore other ?_⟩
    rw [List.getElem?_append_left hearlier] at hother
    exact List.mem_of_getElem? hother
  · rintro ⟨place, hrule, hearlier⟩
    obtain ⟨hplace, rfl⟩ := List.getElem?_eq_some_iff.1 hrule
    refine ⟨rules.take place, rules.drop (place + 1), by simp, fun other hother => ?_⟩
    obtain ⟨earlier, hlt, rfl⟩ := List.mem_take_iff_getElem.1 hother
    exact hearlier earlier _ (by omega) (List.getElem?_eq_getElem _)

@[simp] theorem not_failsPast_nil : ¬FailsPast clock record goesOn [] e := by
  simp [FailsPast]

@[simp] theorem failsPast_cons :
    FailsPast clock record goesOn (rule :: rules) e ↔
      rule.matchesRecord clock record = .error e ∨
        goesOn rule ∧ FailsPast clock record goesOn rules e := by
  simp only [FailsPast, reaches_cons]
  constructor
  · rintro ⟨failing, rfl | ⟨hrule, hreaches⟩, hfails⟩
    · exact .inl hfails
    · exact .inr ⟨hrule, failing, hreaches, hfails⟩
  · rintro (hfails | ⟨hrule, failing, hreaches, hfails⟩)
    · exact ⟨rule, .inl rfl, hfails⟩
    · exact ⟨failing, .inr ⟨hrule, hreaches⟩, hfails⟩

theorem firstMatch?_cons (rule : Rule) (rules : List Rule) :
    firstMatch? clock record (rule :: rules) =
      match rule.matchesRecord clock record with
      | .error e => .error e
      | .ok true => .ok (some rule)
      | .ok false => firstMatch? clock record rules := by
  rw [firstMatch?]
  rcases rule.matchesRecord clock record with e | _ | _ <;> rfl

theorem allMatch_cons (rule : Rule) (rules : List Rule) :
    allMatch clock record (rule :: rules) =
      match rule.matchesRecord clock record with
      | .error e => .error e
      | .ok true => allMatch clock record rules
      | .ok false => .ok false := by
  rw [allMatch]
  rcases rule.matchesRecord clock record with e | _ | _ <;> rfl

theorem matching_cons (rule : Rule) (rules : List Rule) :
    matching clock record (rule :: rules) =
      match rule.matchesRecord clock record, matching clock record rules with
      | .error e, _ => .error e
      | .ok _, .error e => .error e
      | .ok matched, .ok found => .ok (if matched then rule :: found else found) := by
  rw [matching]
  cases rule.matchesRecord clock record with
  | error e => rfl
  | ok matched => cases matching clock record rules <;> rfl

theorem matchingTails_cons (rule : Rule) (rules : List Rule) :
    matchingTails clock record (rule :: rules) =
      match rule.matchesRecord clock record, matchingTails clock record rules with
      | .error e, _ => .error e
      | .ok _, .error e => .error e
      | .ok matched, .ok tails => .ok (if matched then rule.tail :: tails else tails) := by
  rw [matchingTails]
  cases rule.matchesRecord clock record with
  | error e => rfl
  | ok matched => cases matchingTails clock record rules <;> rfl

theorem firstMatch?_eq_error_iff :
    firstMatch? clock record rules = .error e ↔
      FailsPast clock record (·.matchesRecord clock record = .ok false) rules e := by
  induction rules with
  | nil => simp [firstMatch?]
  | cons rule rules ih =>
      rcases h : rule.matchesRecord clock record with e' | _ | _ <;>
        simp [firstMatch?_cons, h, ih]

theorem allMatch_eq_error_iff :
    allMatch clock record rules = .error e ↔
      FailsPast clock record (·.matchesRecord clock record = .ok true) rules e := by
  induction rules with
  | nil => simp [allMatch]
  | cons rule rules ih =>
      rcases h : rule.matchesRecord clock record with e' | _ | _ <;>
        simp [allMatch_cons, h, ih]

theorem matching_eq_error_iff :
    matching clock record rules = .error e ↔
      FailsPast clock record (fun other => (other.matchesRecord clock record).isOk) rules e := by
  induction rules with
  | nil => simp [matching]
  | cons rule rules ih =>
      cases h : rule.matchesRecord clock record with
      | error e' => simp [matching_cons, h, Except.isOk, Except.toBool]
      | ok matched =>
          rw [failsPast_cons, ← ih]
          cases hrest : matching clock record rules <;>
            simp [matching_cons, h, hrest, Except.isOk, Except.toBool]

theorem firstMatch?_eq_none_iff :
    firstMatch? clock record rules = .ok none ↔
      ∀ rule ∈ rules, rule.matchesRecord clock record = .ok false := by
  induction rules with
  | nil => simp [firstMatch?]
  | cons rule rules ih =>
      rcases h : rule.matchesRecord clock record with e | _ | _ <;>
        simp [firstMatch?_cons, h, ih]

theorem firstMatch?_eq_some_iff :
    firstMatch? clock record rules = .ok (some rule) ↔
      Reaches (·.matchesRecord clock record = .ok false) rules rule ∧
        rule.matchesRecord clock record = .ok true := by
  induction rules with
  | nil => simp [firstMatch?]
  | cons other rules ih =>
      rcases h : other.matchesRecord clock record with e | _ | _
      · have hne : other = rule → rule.matchesRecord clock record ≠ .ok true := by
          rintro rfl
          simp [h]
        simpa [firstMatch?_cons, h] using hne
      · have hne : rule.matchesRecord clock record = .ok true → other ≠ rule := by
          rintro hrule rfl
          simp [h] at hrule
        simp only [firstMatch?_cons, h, ih, reaches_cons, true_and]
        exact ⟨fun ⟨hreaches, hrule⟩ => ⟨.inr hreaches, hrule⟩,
          fun ⟨hreaches, hrule⟩ => ⟨hreaches.resolve_left (hne hrule), hrule⟩⟩
      · simp only [firstMatch?_cons, h, Except.ok.injEq, Option.some.injEq, reaches_cons,
          Bool.true_eq_false, false_and, or_false]
        exact ⟨fun heq => ⟨heq, heq ▸ h⟩, And.left⟩

theorem matchingTails_eq_map (rules : List Rule) :
    matchingTails clock record rules = (matching clock record rules).map (List.map Rule.tail) := by
  induction rules with
  | nil => rfl
  | cons rule rules ih =>
      rw [matchingTails_cons, matching_cons, ih]
      cases rule.matchesRecord clock record with
      | error e => rfl
      | ok matched =>
          cases matching clock record rules with
          | error e => rfl
          | ok found => cases matched <;> rfl

theorem isMatch_of_matchesRecord {matched : Bool}
    (h : rule.matchesRecord clock record = .ok matched) : rule.isMatch clock record = matched := by
  cases matched <;> simp [Rule.isMatch, h, Except.toOption]

theorem matching_eq_ok {found : List Rule} (h : matching clock record rules = .ok found) :
    (∀ rule ∈ rules, rule.matchesRecord clock record = .ok (rule.isMatch clock record)) ∧
      found = rules.filter (Rule.isMatch clock record) := by
  induction rules generalizing found with
  | nil => simpa [matching, eq_comm] using h
  | cons rule rules ih =>
      rw [matching_cons] at h
      cases hrule : rule.matchesRecord clock record with
      | error e => simp [hrule] at h
      | ok matched =>
          cases hrest : matching clock record rules with
          | error e => simp [hrule, hrest] at h
          | ok rest =>
              obtain ⟨hanswered, rfl⟩ := ih hrest
              simp only [hrule, hrest, Except.ok.injEq] at h
              have hmatch := isMatch_of_matchesRecord hrule
              refine ⟨List.forall_mem_cons.2 ⟨by rw [hrule, hmatch], hanswered⟩, ?_⟩
              rw [← h, List.filter_cons, hmatch]

section

variable (h : ∀ rule ∈ rules, rule.matchesRecord clock record = .ok (rule.isMatch clock record))

include h

theorem firstMatch?_of_answered :
    firstMatch? clock record rules = .ok (rules.filter (Rule.isMatch clock record)).head? := by
  induction rules with
  | nil => rfl
  | cons rule rules ih =>
      obtain ⟨hrule, hrules⟩ := List.forall_mem_cons.1 h
      cases hmatch : rule.isMatch clock record <;>
        simp [firstMatch?_cons, hrule, hmatch, ih hrules]

theorem allMatch_of_answered :
    allMatch clock record rules = .ok (rules.all (Rule.isMatch clock record)) := by
  induction rules with
  | nil => rfl
  | cons rule rules ih =>
      obtain ⟨hrule, hrules⟩ := List.forall_mem_cons.1 h
      cases hmatch : rule.isMatch clock record <;>
        simp [allMatch_cons, hrule, hmatch, ih hrules]

end

/-- All questions tell one story.  Looking for all matches fails with the earliest failure, and
otherwise finds the rules that match, in their order; from these the answers of all other
questions can be told.  Looking for the first match fails only when a rule fails before any
matches, and asking for every rule only when one fails before any does not match. -/
theorem queries_agree (set : RuleSet) (clock : Instant) (record : Literal) :
    (∀ e, set.filter clock record = .error e ↔
      FailsPast clock record (fun other => (other.matchesRecord clock record).isOk) set.rules e) ∧
    (∀ e, set.filterApply clock record = .error e ↔ set.filter clock record = .error e) ∧
    (∀ found, set.filter clock record = .ok found →
      found = set.rules.filter (Rule.isMatch clock record) ∧
      set.filterApply clock record = .ok (found.map Rule.tail) ∧
      set.first? clock record = .ok found.head? ∧
      set.firstApply? clock record = .ok (found.head?.map Rule.tail) ∧
      set.any clock record = .ok (!found.isEmpty) ∧
      set.every clock record = .ok (found.length == set.rules.length)) ∧
    (∀ e, set.first? clock record = .error e ↔
      FailsPast clock record (·.matchesRecord clock record = .ok false) set.rules e) ∧
    (∀ e, set.firstApply? clock record = .error e ↔ set.first? clock record = .error e) ∧
    (∀ e, set.any clock record = .error e ↔ set.first? clock record = .error e) ∧
    ∀ e, set.every clock record = .error e ↔
      FailsPast clock record (·.matchesRecord clock record = .ok true) set.rules e := by
  refine ⟨fun e => matching_eq_error_iff, fun e => ?_, fun found hfound => ?_,
    fun e => firstMatch?_eq_error_iff, fun e => ?_, fun e => ?_, fun e => allMatch_eq_error_iff⟩
  · rw [filterApply, matchingTails_eq_map, filter]
    cases matching clock record set.rules <;> simp [Except.map]
  · obtain ⟨hanswered, hfilter⟩ := matching_eq_ok hfound
    have hfirst : set.first? clock record = _ := firstMatch?_of_answered hanswered
    have hevery : set.every clock record = _ := allMatch_of_answered hanswered
    rw [← hfilter] at hfirst
    refine ⟨hfilter, ?_, hfirst, ?_, ?_, ?_⟩
    · rw [filterApply, matchingTails_eq_map, show matching clock record set.rules = _ from hfound]
      rfl
    · rw [firstApply?, hfirst]
      rfl
    · rw [any, hfirst]
      cases found <;> rfl
    · rw [hevery, hfilter, Except.ok.injEq, Bool.eq_iff_iff, beq_iff_eq,
        List.length_filter_eq_length_iff, List.all_eq_true]
  · rw [firstApply?]
    cases set.first? clock record <;> simp [Functor.map, Except.map]
  · rw [any]
    cases set.first? clock record <;> simp [Functor.map, Except.map]

/-- A rule that does not match, one that does, and behind them one that fails. -/
theorem queries_agree_failing :
    ∃ (set failing : RuleSet) (clock : Instant) (record : Literal) (found : List Rule),
      set.rules.map Rule.tail = [.string "x", .string "y"] ∧
      failing.rules.take 2 = set.rules ∧
      set.filter clock record = .ok found ∧
      found = set.rules.filter (Rule.isMatch clock record) ∧
      set.filterApply clock record = .ok [.string "y"] ∧
      set.first? clock record = .ok found.head? ∧
      set.any clock record = .ok true ∧ set.every clock record = .ok false ∧
      failing.first? clock record = .ok found.head? ∧
      ∃ e, failing.filter clock record = .error e ∧ failing.filterApply clock record = .error e := by
  let other : Rule :=
    { head := .mapping [("a", .bool false)]
      tail := .string "x"
      name := ""
      now? := none
      plan := _
      planned := rfl
      trimmed := rfl }
  let matched : Rule :=
    { head := .mapping [("a", .bool true)]
      tail := .string "y"
      name := ""
      now? := none
      plan := _
      planned := rfl
      trimmed := rfl }
  let fails : Rule :=
    { head := .mapping [("a", .mapping [("$in", .mapping [("$ref", .string "/b")])])]
      tail := .null
      name := ""
      now? := none
      plan := _
      planned := rfl
      trimmed := rfl }
  let set : RuleSet := { rules := [other, matched] }
  let failing : RuleSet := { rules := [other, matched, fails] }
  let clock : Instant := ⟨0, 0, by decide⟩
  let record : Literal := .mapping [("a", .bool true)]
  obtain ⟨hfilter, htails, hfirst, -, hany, hevery⟩ :=
    (queries_agree set clock record).2.2.1 [matched] rfl
  have hfails : failing.filter clock record = .error (.invalidOperand .isIn .array) :=
    ((queries_agree failing clock record).1 _).2 ⟨fails, ⟨[other, matched], [], rfl, by decide⟩, rfl⟩
  exact ⟨set, failing, clock, record, [matched], rfl, rfl, rfl, hfilter, htails, hfirst, hany,
    hevery, rfl, _, hfails, ((queries_agree failing clock record).2.1 _).2 hfails⟩

end RuleSet

end RuleBook
