import RuleBook.Literal.Json
import RuleBook.Matching.Compile
import RuleBook.Text.Blank

/-!
# Rules

A rule pairs a head with the tail it yields for the records the head matches.  Heads
without markers are compiled once; heads with markers are compiled again for every
record.
-/

namespace RuleBook

structure Separators where
  headTail : String := "-->"
  name : String := "#=="
  rule : String := ";\n"
  deriving Repr, DecidableEq

inductive Plan where
  | fixed (p : Predicate)
  /-- The markers of the head are resolved in the record first. -/
  | perRecord

/-- Operators are known before any record is seen, also those beside markers. -/
def Plan.ofHead (head : Literal) : Except Error Plan :=
  if Reference.occursIn head then do
    Predicate.checkOperators head
    return .perRecord
  else do
    let p ← Predicate.compile head
    return .fixed p

structure Rule where
  head : Literal
  tail : Literal
  name : String
  /-- The instant that ages are measured from; without it, the time of the match. -/
  now? : Option Instant
  plan : Plan
  planned : Plan.ofHead head = .ok plan
  trimmed : Text.trim name.toList = name.toList

namespace Rule

/-- A rule without a tail yields true.  Blanks around the name are dropped. -/
def ofParts (head : Literal) (tail? : Option Literal) (name : String) : Except Error Rule :=
  match h : Plan.ofHead head with
  | .ok plan =>
      .ok
        { head
          tail := tail?.getD (.bool true)
          name := String.ofList (Text.trim name.toList)
          now? := none
          plan
          planned := h
          trimmed := by simp [Text.trim_trim] }
  | .error e => .error e

def hasReferences (rule : Rule) : Bool := Reference.occursIn rule.head

def predicate (rule : Rule) (record : Literal) : Except Error Predicate :=
  match rule.plan with
  | .fixed p => .ok p
  | .perRecord => Predicate.compile (Reference.dereference rule.head record)

def matchesRecord (clock : Instant) (record : Literal) (rule : Rule) : Except Error Bool := do
  let p ← rule.predicate record
  return p.holdsFor (rule.now?.getD clock) record

/-- The rule at an instant, which a rule that has its own does not look at. -/
def asOf (rule : Rule) (moment : Instant) : Rule :=
  { rule with now? := some (rule.now?.getD moment) }

def yield? (clock : Instant) (record : Literal) (rule : Rule) :
    Except Error (Option Literal) := do
  let matched ← rule.matchesRecord clock record
  return if matched then some rule.tail else none

def toJson (rule : Rule) : Json := .array [rule.head.toJson, rule.tail.toJson]

end Rule

end RuleBook
