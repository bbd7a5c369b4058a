/-!
# Operators

The keys of a head that begin with a dollar sign.
-/

namespace RuleBook

inductive Operator where
  | eq
  | ne
  | gt
  | gte
  | lt
  | lte
  | isIn
  | notIn
  | regex
  | options
  | exists
  | not
  | and
  | or
  | nor
  | all
  | size
  | elemMatch
  | mod
  | type
  | olderThan
  | newerThan
  deriving Repr, DecidableEq

namespace Operator

def key : Operator → String
  | .eq => "$eq"
  | .ne => "$ne"
  | .gt => "$gt"
  | .gte => "$gte"
  | .lt => "$lt"
  | .lte => "$lte"
  | .isIn => "$in"
  | .notIn => "$nin"
  | .regex => "$regex"
  | .options => "$options"
  | .exists => "$exists"
  | .not => "$not"
  | .and => "$and"
  | .or => "$or"
  | .nor => "$nor"
  | .all => "$all"
  | .size => "$size"
  | .elemMatch => "$elemMatch"
  | .mod => "$mod"
  | .type => "$type"
  | .olderThan => "$olderThan"
  | .newerThan => "$newerThan"

def every : List Operator :=
  [.eq, .ne, .gt, .gte, .lt, .lte, .isIn, .notIn, .regex, .options, .exists, .not, .and,
    .or, .nor, .all, .size, .elemMatch, .mod, .type, .olderThan, .newerThan]

def ofKey? (key : String) : Option Operator := every.find? (·.key == key)

/-- Whether a key of a head is read as an operator and not as a field path. -/
def isOperatorKey (key : String) : Bool := key.toList.head? == some '$'

end Operator

end RuleBook
