import RuleBook.CommandLine
import RuleBook.Proofs.Rule.Plan
import RuleBook.Proofs.Rule.Text
import RuleBook.Proofs.RuleSet.Growth

/-!
# What a run prints

A run prints one line for each record, up to the first record on which matching fails or the
first line that cannot be read.  Tails of rules that were read from a text are written on one
line, and none of them is the word that stands for no tail, so the lines of the output and the
records go together one by one.
-/

namespace RuleBook

/-! ## Tails on one line -/

theorem Notation.write_ne_undefined (x : Literal) : write x ≠ "undefined".toList := by
  have hnotMem {s : List Char} (hs : ∀ c ∈ s, c ≠ 'u') : s ≠ "undefined".toList := by
    rintro rfl
    exact hs 'u' (by decide) rfl
  have hdigit {c : Char} (hc : c.isDigit = true) : c ≠ 'u' := by
    rintro rfl
    cases hc
  cases x with
  | bool b => cases b <;> decide
  | number x => exact hnotMem (forall_mem_numberText (fun _ => hdigit) (by decide) x)
  | date t => exact hnotMem (forall_mem_shortText (fun _ => hdigit) (by decide) t)
  | sequence items => cases items <;> simp [write]
  | mapping entries => rcases entries with _ | ⟨⟨key, value⟩, entries⟩ <;> simp [write]
  | _ => simp [write, quote, bytesText, regexText]

theorem Rule.regular_of_ofText {separators : Separators} {text name : String} {rule : Rule}
    (h : ofText separators text none name = .ok rule) : rule.tail.Regular := by
  obtain ⟨written, hread, -, htail⟩ := ofText_inv h
  rw [htail, Option.or_none]
  cases hwritten : written.tail? with
  | none => trivial
  | some tail => exact (WrittenRule.regular_parts hread).2 tail hwritten

theorem RuleSet.regular_of_addAll {set grown : RuleSet} {text : String} {count : Nat}
    (h : set.addAll (.text text) = (grown, .ok count))
    (hset : ∀ rule ∈ set.rules, rule.tail.Regular) : ∀ rule ∈ grown.rules, rule.tail.Regular := by
  obtain ⟨rules, hbuild, hgrown⟩ := addAll_inv (congrArg Prod.snd h)
  obtain rfl : grown = _ := congrArg Prod.fst (h.symm.trans hgrown)
  refine List.forall_mem_append.2 ⟨hset, fun rule hrule => ?_⟩
  obtain ⟨spec, hspec, hbuilt⟩ := exists_of_forall₂ hbuild hrule
  obtain ⟨piece, -, rfl⟩ := List.mem_map.1 hspec
  obtain ⟨read, hread, heq⟩ := bind_eq_ok hbuilt
  have htail := Rule.regular_of_ofText hread
  cases heq
  exact htail

namespace CommandLine

theorem regular_of_ruleSet? {options : Options} {files : Files}
    {environment : List (String × String)} {set : RuleSet}
    (h : ruleSet? options files environment = some set) :
    ∀ rule ∈ set.rules, rule.tail.Regular := by
  simp only [ruleSet?, Option.bind_eq_bind, Option.bind_eq_some_iff] at h
  obtain ⟨settings, -, text, -, h⟩ := h
  split at h
  · next set' _ hadd =>
    cases h
    exact RuleSet.regular_of_addAll hadd (by simp [Settings.ruleSet])
  · cases h

theorem not_mem_lineFeed_of_ruleSet? {options : Options} {files : Files}
    {environment : List (String × String)} {set : RuleSet}
    (h : ruleSet? options files environment = some set) :
    ∀ rule ∈ set.rules, '\n' ∉ Notation.write rule.tail := by
  intro rule hrule hmem
  cases Notation.isLineBreak_write (regular_of_ruleSet? h rule hrule) _ hmem

/-! ## Rules at the instants of a match -/

section

variable {set : RuleSet} {moments : Nat → Instant} {record : Literal} {text : List Char}

/-- None of the first rules matches the record. -/
def Misses (set : RuleSet) (moments : Nat → Instant) (record : Literal) (count : Nat) : Prop :=
  ∀ place rule, place < count → set.rules[place]? = some rule →
    rule.matchesRecord (moments place) record = .ok false

/-- What a record is answered with. -/
inductive IsAnswer (set : RuleSet) (moments : Nat → Instant) (record : Literal) :
    List Char → Prop
  | tail {place : Nat} {rule : Rule} (hrule : set.rules[place]? = some rule)
      (hearliest : Misses set moments record place)
      (hmatches : rule.matchesRecord (moments place) record = .ok true) :
      IsAnswer set moments record (Notation.write rule.tail)
  | undefined (hnone : Misses set moments record set.rules.length) :
      IsAnswer set moments record "undefined".toList

/-- The question for the first match gets to a rule that fails. -/
def FailsOn (set : RuleSet) (moments : Nat → Instant) (record : Literal) : Prop :=
  ∃ e place rule, set.rules[place]? = some rule ∧ Misses set moments record place ∧
    rule.matchesRecord (moments place) record = .error e

theorem rules_asOf_getElem? (place : Nat) :
    (set.asOf moments).rules[place]? = set.rules[place]?.map (·.asOf (moments place)) :=
  List.getElem?_mapIdx

theorem reaches_asOf {clock : Instant} {asked : Rule} :
    RuleSet.Reaches (·.matchesRecord clock record = .ok false) (set.asOf moments).rules asked ↔
      ∃ place rule, set.rules[place]? = some rule ∧ Misses set moments record place ∧
        rule.asOf (moments place) = asked := by
  simp only [RuleSet.reaches_iff_getElem?, rules_asOf_getElem?, Option.map_eq_some_iff, Misses]
  constructor
  · rintro ⟨place, ⟨rule, hrule, rfl⟩, hearlier⟩
    exact ⟨place, rule, hrule,
      fun earlier other hlt hother => hearlier earlier _ hlt ⟨other, hother, rfl⟩, rfl⟩
  · rintro ⟨place, rule, hrule, hmisses, rfl⟩
    refine ⟨place, ⟨rule, hrule, rfl⟩, ?_⟩
    rintro earlier _ hlt ⟨other, hother, rfl⟩
    exact hmisses earlier other hlt hother

theorem misses_length_iff {clock : Instant} :
    Misses set moments record set.rules.length ↔
      ∀ rule ∈ (set.asOf moments).rules, rule.matchesRecord clock record = .ok false := by
  simp only [List.mem_iff_getElem?, rules_asOf_getElem?, Option.map_eq_some_iff, Misses]
  constructor
  · rintro h _ ⟨place, rule, hrule, rfl⟩
    exact h place rule (List.getElem?_eq_some_iff.1 hrule).1 hrule
  · exact fun h place rule _ hrule => h _ ⟨place, rule, hrule, rfl⟩

theorem answer_eq (set : RuleSet) (moments : Nat → Instant) (record : Literal) :
    answer set false moments record =
      ((set.asOf moments).first? (moments 0) record).map fun
        | some rule => Notation.write rule.tail
        | none => "undefined".toList := by
  rw [answer, RuleSet.firstApply?]
  rcases (set.asOf moments).first? (moments 0) record with _ | _ | _ <;> rfl

theorem first?_asOf_eq_error_iff {clock : Instant} {e : Error} :
    (set.asOf moments).first? clock record = .error e ↔
      ∃ place rule, set.rules[place]? = some rule ∧ Misses set moments record place ∧
        rule.matchesRecord (moments place) record = .error e := by
  rw [RuleSet.first?, RuleSet.firstMatch?_eq_error_iff, RuleSet.FailsPast]
  simp only [reaches_asOf]
  constructor
  · rintro ⟨_, ⟨place, rule, hrule, hmisses, rfl⟩, he⟩
    exact ⟨place, rule, hrule, hmisses, he⟩
  · rintro ⟨place, rule, hrule, hmisses, he⟩
    exact ⟨_, ⟨place, rule, hrule, hmisses, rfl⟩, he⟩

theorem isOk_answer_iff :
    (answer set false moments record).isOk = true ↔ ¬FailsOn set moments record := by
  rw [answer_eq]
  simp only [FailsOn, ← @first?_asOf_eq_error_iff set moments record (moments 0)]
  cases (set.asOf moments).first? (moments 0) record <;>
    simp [Except.map, Except.isOk, Except.toBool]

theorem isAnswer_of_answer (h : answer set false moments record = .ok text) :
    IsAnswer set moments record text := by
  rw [answer_eq] at h
  rcases hfirst : (set.asOf moments).first? (moments 0) record with e | _ | asked
  · rw [hfirst] at h
    cases h
  · rw [hfirst] at h
    cases h
    exact .undefined (misses_length_iff.2 (RuleSet.firstMatch?_eq_none_iff.1 hfirst))
  · rw [hfirst] at h
    cases h
    obtain ⟨hreaches, hmatches⟩ := RuleSet.firstMatch?_eq_some_iff.1 hfirst
    obtain ⟨place, rule, hrule, hmisses, rfl⟩ := reaches_asOf.1 hreaches
    exact @IsAnswer.tail set moments record place rule hrule hmisses hmatches

theorem IsAnswer.eq_undefined_iff (h : IsAnswer set moments record text) :
    text = "undefined".toList ↔ Misses set moments record set.rules.length := by
  cases h with
  | @tail place rule hrule hearliest hmatches =>
      refine iff_of_false (Notation.write_ne_undefined rule.tail) fun hnone => ?_
      have hmisses := hnone place rule (List.getElem?_eq_some_iff.1 hrule).1 hrule
      simp [hmatches] at hmisses
  | undefined hnone => simpa using hnone

theorem IsAnswer.not_mem_lineFeed (hset : ∀ rule ∈ set.rules, '\n' ∉ Notation.write rule.tail)
    (h : IsAnswer set moments record text) : '\n' ∉ text := by
  cases h with
  | tail hrule _ _ => exact hset _ (List.mem_of_getElem? hrule)
  | undefined _ => decide

end

/-! ## Lines and records -/

def record? (line : String) : Option Literal :=
  if line.toList.all Text.isBlank then none else (Literal.parseJson line).toOption

/-- What is read of an input, up to the first line that cannot be read. -/
def readable : List Text.Line → List String
  | some line :: lines => line :: readable lines
  | _ => []

def records (lines : List Text.Line) : List Literal := (readable lines).filterMap record?

def answersBeforeFailure : List (Except Error (List Char)) → List (List Char)
  | .ok text :: outcomes => text :: answersBeforeFailure outcomes
  | _ => []

section

variable {set : RuleSet} {all : Bool} {surroundings : Surroundings} {room? : Option Nat}
  {text more : List Char} {line : String} {record : Literal}

theorem fits_of_append (h : fits room? (text ++ more) = true) : fits room? text = true := by
  cases room? with
  | none => rfl
  | some room =>
      simp only [fits, Option.all_some, decide_eq_true_eq, List.length_append] at h ⊢
      omega

theorem fits_nil : fits room? [] = true := by
  cases room? <;> simp [fits]

theorem fits_iff : fits room? text = true ↔ text.length ≤ room?.getD text.length := by
  cases room? <;> simp [fits]

theorem taken_eq_take : taken room? text = text.take (room?.getD text.length) := by
  cases room? <;> simp [taken]

theorem taken_of_fits (h : fits room? text = true) : taken room? text = text := by
  cases room? with
  | none => rfl
  | some room => exact List.take_of_length_le (by simpa [fits] using h)

theorem taken_append_of_not_fits (h : fits room? text = false) :
    taken room? (text ++ more) = taken room? text := by
  cases room? with
  | none => cases h
  | some room =>
      have hroom : room < text.length := by simpa [fits] using h
      exact List.take_append_of_le_length hroom.le

theorem answerLines_cons {m : Type → Type} [Monad m] [LawfulMonad m] (console : Console m)
    (line : Text.Line) (lines : List Text.Line) :
    answerLines set all console (line :: lines) = do
      if ← answerLine set all console line then answerLines set all console lines
      else return false := by
  simp only [answerLines, List.forIn_cons, bind_assoc]
  refine bind_congr fun goesOn => ?_
  cases goesOn <;> simp

theorem records_cons_of_passed (h : record? line = none) (lines : List Text.Line) :
    records (some line :: lines) = records lines := by
  rw [records, readable, List.filterMap_cons_none h, records]

theorem records_cons_of_record (h : record? line = some record) (lines : List Text.Line) :
    records (some line :: lines) = record :: records lines := by
  rw [records, readable, List.filterMap_cons_some h, records]

/-! ### Steps of a run -/

theorem answerLine_eq {m : Type → Type} [Monad m] [LawfulMonad m] (console : Console m)
    (line : String) :
    answerLine set all console (some line) =
      match record? line with
      | none => pure true
      | some record =>
          console.moments >>= fun moments =>
            match answer set all moments record with
            | .error _ => pure false
            | .ok text => console.print (text ++ ['\n']) := by
  rw [answerLine, record?]
  split
  · rfl
  · cases Literal.parseJson line <;> rfl

theorem run_answerLine_of_passed (h : record? line = none) (progress : Progress) :
    (answerLine set all surroundings.console (some line)).run progress = (true, progress) := by
  rw [answerLine_eq, h]
  rfl

theorem run_answerLine_of_record (h : record? line = some record) (progress : Progress) :
    (answerLine set all surroundings.console (some line)).run progress =
      match answer set all (surroundings.clock progress.asked) record with
      | .error _ => (false, ⟨progress.asked + 1, progress.output⟩)
      | .ok text =>
          let output := progress.output ++ (text ++ ['\n'])
          (fits surroundings.room? output,
            ⟨progress.asked + 1, taken surroundings.room? output⟩) := by
  rw [answerLine_eq, h]
  show (match answer set all (surroundings.clock progress.asked) record with
    | .error _ => pure false
    | .ok text => surroundings.console.print (text ++ ['\n']) : StateM Progress Bool).run
      ⟨progress.asked + 1, progress.output⟩ = _
  cases answer set all (surroundings.clock progress.asked) record <;> rfl

theorem run_answerLines_cons (line : Text.Line) (lines : List Text.Line) (progress : Progress) :
    (answerLines set all surroundings.console (line :: lines)).run progress =
      match (answerLine set all surroundings.console line).run progress with
      | (true, after) => (answerLines set all surroundings.console lines).run after
      | (false, after) => (false, after) := by
  rw [answerLines_cons]
  show (match (answerLine set all surroundings.console line).run progress with
    | (goesOn, after) => (if goesOn = true then answerLines set all surroundings.console lines
        else pure false : StateM Progress Bool).run after) = _
  rcases (answerLine set all surroundings.console line).run progress with ⟨_ | _, after⟩ <;> rfl

/-- A run from where it stands prints the answers up to the first failure, as far as the output
takes them. -/
theorem run_answerLines (lines : List Text.Line) (progress : Progress)
    (h : fits surroundings.room? progress.output = true) :
    let outcomes := ((records lines).zipIdx progress.asked).map fun place =>
      answer set all (surroundings.clock place.2) place.1
    let output := progress.output ++ (answersBeforeFailure outcomes).flatMap (· ++ ['\n'])
    let result := (answerLines set all surroundings.console lines).run progress
    result.2.output = taken surroundings.room? output ∧
      (result.1 = true ↔ (∀ line ∈ lines, line.isSome = true) ∧
        (∀ outcome ∈ outcomes, outcome.isOk = true) ∧ fits surroundings.room? output = true) := by
  induction lines generalizing progress with
  | nil =>
      simp only [records, readable, List.filterMap_nil, List.zipIdx_nil, List.map_nil,
        answersBeforeFailure, List.flatMap_nil, List.append_nil]
      exact ⟨(taken_of_fits h).symm, iff_of_true rfl ⟨by simp, by simp, h⟩⟩
  | cons line lines ih =>
      rw [run_answerLines_cons]
      rcases line with _ | line
      · simp only [records, readable, List.filterMap_nil, List.zipIdx_nil, List.map_nil,
          answersBeforeFailure, List.flatMap_nil, List.append_nil]
        exact ⟨(taken_of_fits h).symm, iff_of_false Bool.false_ne_true (by simp)⟩
      cases hrecord : record? line with
      | none =>
          rw [run_answerLine_of_passed hrecord, records_cons_of_passed hrecord]
          simpa using ih progress h
      | some record =>
          rw [run_answerLine_of_record hrecord, records_cons_of_record hrecord, List.zipIdx_cons,
            List.map_cons]
          cases answer set all (surroundings.clock progress.asked) record with
          | error e =>
              simp only [answersBeforeFailure, List.flatMap_nil, List.append_nil]
              refine ⟨(taken_of_fits h).symm, iff_of_false Bool.false_ne_true fun hall => ?_⟩
              cases hall.2.1 (.error e) List.mem_cons_self
          | ok text =>
              simp only [answersBeforeFailure, List.flatMap_cons, ← List.append_assoc]
              cases hfits : fits surroundings.room? (progress.output ++ text ++ ['\n']) with
              | false =>
                  refine ⟨(taken_append_of_not_fits hfits).symm,
                    iff_of_false Bool.false_ne_true fun hall => ?_⟩
                  rw [fits_of_append hall.2.2] at hfits
                  cases hfits
              | true =>
                  have hrest := ih ⟨progress.asked + 1, progress.output ++ text ++ ['\n']⟩ hfits
                  rw [taken_of_fits hfits]
                  simpa [Except.isOk, Except.toBool] using hrest

theorem Outcome.exitCode_eq_zero_iff {outcome : Outcome} :
    outcome.exitCode = 0 ↔ outcome.succeeds = true := by
  rw [exitCode]
  cases outcome.succeeds <;> simp

theorem exists_answered {α : Type} (outcome : α → Except Error (List Char)) (places : List α) :
    ∃ answered, answered <+: places ∧
      List.Forall₂ (fun place line => outcome place = .ok line) answered
        (answersBeforeFailure (places.map outcome)) ∧
      ∀ place, places[answered.length]? = some place → (outcome place).isOk = false := by
  induction places with
  | nil => exact ⟨[], List.prefix_refl _, .nil, nofun⟩
  | cons place places ih =>
      cases houtcome : outcome place with
      | error e =>
          refine ⟨[], List.nil_prefix, ?_, ?_⟩
          · rw [List.map_cons, houtcome, answersBeforeFailure]
            · exact .nil
            · nofun
          · rintro _ ⟨⟩
            rw [houtcome]
            rfl
      | ok line =>
          obtain ⟨answered, hprefix, hlines, hnext⟩ := ih
          refine ⟨place :: answered, (List.prefix_cons_inj place).2 hprefix, ?_, hnext⟩
          rw [List.map_cons, houtcome]
          exact .cons houtcome hlines

end

/-- A run without `--all` prints one line for each record that matching does not fail on, in
their order, up to the first one it fails on or the first line that cannot be read.  The line is
the tail of the earliest rule that matches, or a word that no tail is written as when no rule
does, and no tail takes more than one line.  The run succeeds when every line can be read,
matching fails on no record, and the output takes everything. -/
theorem output_of_run {arguments : List String} {options : Options} {set : RuleSet}
    {surroundings : Surroundings} (hoptions : Options.ofArguments? arguments = some options)
    (hall : options.all = false)
    (hset : ruleSet? options surroundings.files surroundings.environment = some set) :
    let outcome := run arguments surroundings
    let places := (records surroundings.lines).zipIdx
    (∃ answered printed, answered <+: places ∧
      (∀ place, places[answered.length]? = some place →
        FailsOn set (surroundings.clock place.2) place.1) ∧
      List.Forall₂ (fun place line => IsAnswer set (surroundings.clock place.2) place.1 line ∧
          (line = "undefined".toList ↔
            Misses set (surroundings.clock place.2) place.1 set.rules.length))
        answered printed ∧
      (∀ line ∈ printed, '\n' ∉ line) ∧
      let output := printed.flatMap (· ++ ['\n'])
      let room := surroundings.room?.getD output.length
      outcome.output = output.take room ∧
      (outcome.exitCode = 0 ↔ (∀ line ∈ surroundings.lines, line.isSome = true) ∧
        (∀ place ∈ places, ¬FailsOn set (surroundings.clock place.2) place.1) ∧
        output.length ≤ room)) ∧
    ∀ rule ∈ set.rules, '\n' ∉ Notation.write rule.tail ∧
      Notation.write rule.tail ≠ "undefined".toList := by
  intro outcome places
  obtain ⟨houtput, hsucceeds⟩ :=
    @run_answerLines set false surroundings surroundings.lines {} fits_nil
  let answers (place : Literal × Nat) := answer set false (surroundings.clock place.2) place.1
  obtain ⟨answered, hprefix, hprinted, hnext⟩ := exists_answered answers places
  have houtcome : outcome =
      let result := (answerLines set false surroundings.console surroundings.lines).run {}
      ⟨result.1, result.2.output⟩ := by
    rw [← hall]
    simp only [outcome, run, hoptions, hset]
  have hlines := not_mem_lineFeed_of_ruleSet? hset
  refine ⟨⟨answered, answersBeforeFailure (places.map answers), hprefix,
      fun place hplace => ?_, ?_, ?_, ?_, ?_⟩,
    fun rule hrule => ⟨hlines rule hrule, Notation.write_ne_undefined rule.tail⟩⟩
  · by_contra hfails
    have hok := isOk_answer_iff.2 hfails
    rw [hnext place hplace] at hok
    cases hok
  · refine hprinted.imp fun place line hanswer => ?_
    have hline := isAnswer_of_answer hanswer
    exact ⟨hline, hline.eq_undefined_iff⟩
  · intro line hmem
    obtain ⟨place, -, hanswer⟩ := exists_of_forall₂ hprinted hmem
    exact (isAnswer_of_answer hanswer).not_mem_lineFeed hlines
  · rw [houtcome, ← taken_eq_take]
    exact houtput
  · rw [Outcome.exitCode_eq_zero_iff, houtcome]
    simp only [← isOk_answer_iff, ← fits_iff]
    refine hsucceeds.trans (and_congr_right fun _ => and_congr_left fun _ => ?_)
    exact List.forall_mem_map

/-- A record that is matched, lines without a record, one that is recent when it is matched and
not any more the next time, one on which matching fails, and one behind it. -/
theorem output_of_run_unresolved :
    let rules := "\x7ba: true\x7d --> 'x y';\n\x7bt: \x7b$newerThan: 1000\x7d\x7d --> recent;\n" ++
      "\x7ba: \x7b$in: \x7b$ref: /c\x7d\x7d\x7d --> no"
    let input := "\x7b\"a\":true\x7d\n\nnone\n\x7b\"t\":\"1970-01-01\",\"c\":[]\x7d\r\n" ++
      "\x7b\"t\":\"1970-01-01\",\"c\":[]\x7d\n\x7b\"a\":false\x7d\n\x7b\"a\":true\x7d"
    let surroundings : Surroundings :=
      { files := [("rules", rules)]
        clock := fun record _ => if record = 1 then ⟨0, 0, by decide⟩ else ⟨60, 0, by decide⟩
        lines := Text.readLines input.toUTF8.toList }
    let outcome := run ["rules"] surroundings
    let places := (records surroundings.lines).zipIdx
    outcome = ⟨false, "\"x y\"\n\"recent\"\nundefined\n".toList⟩ ∧
    ∃ options set, Options.ofArguments? ["rules"] = some options ∧ options.all = false ∧
      ruleSet? options surroundings.files surroundings.environment = some set ∧
      (∃ answered printed, answered <+: places ∧
        (∀ place, places[answered.length]? = some place →
          FailsOn set (surroundings.clock place.2) place.1) ∧
        List.Forall₂ (fun place line => IsAnswer set (surroundings.clock place.2) place.1 line ∧
            (line = "undefined".toList ↔
              Misses set (surroundings.clock place.2) place.1 set.rules.length))
          answered printed ∧
        outcome.output = printed.flatMap (· ++ ['\n'])) ∧
      ∃ place ∈ places, FailsOn set (surroundings.clock place.2) place.1 := by
  intro rules input surroundings outcome places
  have hrun : outcome = ⟨false, "\"x y\"\n\"recent\"\nundefined\n".toList⟩ := by decide +kernel
  have hloads : (ruleSet? { rules := "rules" } surroundings.files []).isSome = true := by
    decide +kernel
  have hread : ∀ line ∈ surroundings.lines, line.isSome = true := by decide +kernel
  obtain ⟨set, hset⟩ := Option.isSome_iff_exists.1 hloads
  have hoptions : Options.ofArguments? ["rules"] = some { rules := "rules" } := by decide
  obtain ⟨⟨answered, printed, hprefix, hnext, hanswers, -, houtput, hexit⟩, -⟩ :=
    output_of_run hoptions rfl hset
  refine ⟨hrun, _, set, hoptions, rfl, hset,
    ⟨answered, printed, hprefix, hnext, hanswers, houtput.trans List.take_length⟩, ?_⟩
  by_contra hfails
  push Not at hfails
  have hsucceeds : outcome.exitCode = 0 := hexit.2 ⟨hread, hfails, Nat.le_refl _⟩
  rw [hrun] at hsucceeds
  cases hsucceeds

theorem not_failsOn_of_not_hasReferences {set : RuleSet}
    (h : ∀ rule ∈ set.rules, rule.hasReferences = false) (moments : Nat → Instant)
    (record : Literal) : ¬FailsOn set moments record := by
  rintro ⟨e, place, rule, hrule, -, he⟩
  obtain ⟨p, -, hplan⟩ := Rule.plan_of_not_occursIn (h rule (List.mem_of_getElem? hrule))
  rw [Rule.matchesRecord, Rule.predicate, hplan] at he
  cases he

/-- Rules that fail on no record.  A line that cannot be read keeps the record behind it from
being answered, and a number that is out of range makes no record. -/
theorem run_of_unreadable :
    let files : Files := [("rules", "\x7b\x7d --> any")]
    let run (input : List UInt8) := run ["rules"]
      { files, clock := fun _ _ => ⟨0, 0, by decide⟩, lines := Text.readLines input }
    let line := "\x7b\"a\":true\x7d\n".toUTF8.toList
    Options.ofArguments? ["rules"] = some { rules := "rules" } ∧
    (∃ set, ruleSet? { rules := "rules" } files [] = some set ∧
      ∀ moments record, ¬FailsOn set moments record) ∧
    run line = ⟨true, "\"any\"\n".toList⟩ ∧ run (0xff :: 0x0a :: line) = ⟨false, []⟩ ∧
    run "1e999\n".toUTF8.toList = ⟨true, []⟩ := by
  intro files run line
  have hloads : ∃ set, ruleSet? { rules := "rules" } files [] = some set ∧
      ∀ rule ∈ set.rules, rule.hasReferences = false := by
    have hset : ((ruleSet? { rules := "rules" } files []).any fun set =>
        set.rules.all (!·.hasReferences)) = true := by decide +kernel
    simpa [Option.any_eq_true] using hset
  obtain ⟨set, hset, hrules⟩ := hloads
  exact ⟨by decide, ⟨set, hset, not_failsOn_of_not_hasReferences hrules⟩, by decide +kernel,
    by decide +kernel, by decide +kernel⟩

end CommandLine

end RuleBook
