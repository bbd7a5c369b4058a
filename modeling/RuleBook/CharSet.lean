/-!
# Sets of characters

A set of code points as an ascending list of ranges that neither overlap nor touch.
Complements are taken within a bound, so the same operations serve sets of bytes.
-/

namespace RuleBook

structure CharSet where
  ranges : List (Nat × Nat)
  deriving Repr, DecidableEq

namespace CharSet

def empty : CharSet := ⟨[]⟩

def single (c : Nat) : CharSet := ⟨[(c, c)]⟩

def range (first last : Nat) : CharSet := ⟨[(first, last)]⟩

def contains (set : CharSet) (c : Nat) : Bool :=
  set.ranges.any fun (first, last) => first ≤ c ∧ c ≤ last

def joinFrom (first last : Nat) : List (Nat × Nat) → List (Nat × Nat)
  | [] => [(first, last)]
  | (next, final) :: rest =>
      if next ≤ last + 1 then joinFrom first (max last final) rest
      else (first, last) :: joinFrom next final rest

def joinRanges : List (Nat × Nat) → List (Nat × Nat)
  | [] => []
  | (first, last) :: rest => joinFrom first last rest

def ofRanges (ranges : List (Nat × Nat)) : CharSet :=
  ⟨joinRanges (ranges.mergeSort fun a b => a.1 ≤ b.1)⟩

def union (a b : CharSet) : CharSet := ofRanges (a.ranges ++ b.ranges)

def gapsFrom (greatest start : Nat) : List (Nat × Nat) → List (Nat × Nat)
  | [] => if start ≤ greatest then [(start, greatest)] else []
  | (first, last) :: rest =>
      if start < first then (start, first - 1) :: gapsFrom greatest (last + 1) rest
      else gapsFrom greatest (last + 1) rest

def complementUpTo (greatest : Nat) (set : CharSet) : CharSet :=
  ⟨gapsFrom greatest 0 set.ranges⟩

def greatestCodePoint : Nat := 0x10ffff

def complement (set : CharSet) : CharSet := set.complementUpTo greatestCodePoint

def intersection (a b : CharSet) : CharSet :=
  (a.complement.union b.complement).complement

def difference (a b : CharSet) : CharSet := a.intersection b.complement

def toggle (a b : CharSet) : CharSet := (a.difference b).union (b.difference a)

def within (greatest : Nat) (set : CharSet) : Bool :=
  set.ranges.all fun (_, last) => last ≤ greatest

end CharSet

end RuleBook
