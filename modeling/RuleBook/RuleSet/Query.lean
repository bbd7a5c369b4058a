import RuleBook.RuleSet.Basic

/-!
# Asking a rule set

Rules are asked in order.  The first failure ends the question, unless the answer was
known before.
-/

namespace RuleBook.RuleSet

def firstMatch? (clock : Instant) (record : Literal) :
    List Rule → Except Error (Option Rule)
  | [] => .ok none
  | rule :: rules => do
      let matched ← rule.matchesRecord clock record
      if matched then return some rule else firstMatch? clock record rules

def allMatch (clock : Instant) (record : Literal) : List Rule → Except Error Bool
  | [] => .ok true
  | rule :: rules => do
      let matched ← rule.matchesRecord clock record
      if matched then allMatch clock record rules else return false

def matching (clock : Instant) (record : Literal) : List Rule → Except Error (List Rule)
  | [] => .ok []
  | rule :: rules => do
      let matched ← rule.matchesRecord clock record
      let rest ← matching clock record rules
      return if matched then rule :: rest else rest

def first? (set : RuleSet) (clock : Instant) (record : Literal) :
    Except Error (Option Rule) := firstMatch? clock record set.rules

def every (set : RuleSet) (clock : Instant) (record : Literal) : Except Error Bool :=
  allMatch clock record set.rules

def any (set : RuleSet) (clock : Instant) (record : Literal) : Except Error Bool := do
  let found ← set.first? clock record
  return found.isSome

def filter (set : RuleSet) (clock : Instant) (record : Literal) :
    Except Error (List Rule) := matching clock record set.rules

/-- The set at one instant for each of its rules, by their places. -/
def asOf (set : RuleSet) (moments : Nat → Instant) : RuleSet :=
  { set with rules := set.rules.mapIdx fun place rule => rule.asOf (moments place) }

def matchingTails (clock : Instant) (record : Literal) :
    List Rule → Except Error (List Literal)
  | [] => .ok []
  | rule :: rules => do
      let matched ← rule.matchesRecord clock record
      let rest ← matchingTails clock record rules
      return if matched then rule.tail :: rest else rest

def filterApply (set : RuleSet) (clock : Instant) (record : Literal) :
    Except Error (List Literal) := matchingTails clock record set.rules

def firstApply? (set : RuleSet) (clock : Instant) (record : Literal) :
    Except Error (Option Literal) := do
  let found ← set.first? clock record
  return found.map Rule.tail

end RuleBook.RuleSet
