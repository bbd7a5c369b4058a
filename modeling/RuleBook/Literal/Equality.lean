import RuleBook.Literal.Basic

/-!
# Equality of literals

Two equalities.  Structural equality takes NaN as equal to itself, so that a literal
equals what its text reads as.  Matching takes NaN as equal to nothing.  Both compare
mappings without regard to the order of entries.
-/

namespace RuleBook.Literal

mutual

def beq : Literal → Literal → Bool
  | .null, .null => true
  | .bool a, .bool b => a == b
  | .number a, .number b => Number.equal a b || (Number.isNaN a && Number.isNaN b)
  | .string a, .string b => a == b
  | .date a, .date b => a == b
  | .regex a, .regex b => a == b
  | .binary a, .binary b => a == b
  | .sequence as, .sequence bs => beqItems as bs
  | .mapping as, .mapping bs => as.length == bs.length && beqEntries as bs
  | _, _ => false

def beqItems : List Literal → List Literal → Bool
  | [], [] => true
  | a :: as, b :: bs => a.beq b && beqItems as bs
  | _, _ => false

def beqEntries : List (String × Literal) → List (String × Literal) → Bool
  | [], _ => true
  | (key, a) :: as, bs =>
      (match lookup key bs with
        | some b => a.beq b
        | none => false) && beqEntries as bs

end

instance : BEq Literal := ⟨beq⟩

mutual

def same : Literal → Literal → Bool
  | .number a, .number b => Number.equal a b
  | .sequence as, .sequence bs => sameItems as bs
  | .mapping as, .mapping bs => as.length == bs.length && sameEntries as bs
  | .null, .null => true
  | .bool a, .bool b => a == b
  | .string a, .string b => a == b
  | .date a, .date b => a == b
  | .regex a, .regex b => a == b
  | .binary a, .binary b => a == b
  | _, _ => false

def sameItems : List Literal → List Literal → Bool
  | [], [] => true
  | a :: as, b :: bs => a.same b && sameItems as bs
  | _, _ => false

def sameEntries : List (String × Literal) → List (String × Literal) → Bool
  | [], _ => true
  | (key, a) :: as, bs =>
      (match lookup key bs with
        | some b => a.same b
        | none => false) && sameEntries as bs

end

end RuleBook.Literal
