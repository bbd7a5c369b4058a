import RuleBook.Instant.Text
import RuleBook.Literal.Equality

/-!
# Predicates over records

What a head means.  A predicate is asked of the values that a field path selects; no
value at all means that the field is undefined.  Tests look at one value at a time
and hold for a sequence also when they hold for one of its elements.
-/

namespace RuleBook

inductive Comparison where
  | gt
  | gte
  | lt
  | lte
  deriving Repr, DecidableEq

inductive Age where
  | olderThan
  | newerThan
  deriving Repr, DecidableEq

inductive Cutoff where
  /-- A number of milliseconds before now. -/
  | relative (milliseconds : Int)
  | absolute (t : Instant)
  deriving DecidableEq

inductive Test where
  | equals (expected : Literal)
  | compares (comparison : Comparison) (expected : Literal)
  | isIn (candidates : List Literal)
  | matchesRegex (r : RegexLiteral)
  | mod (divisor remainder : Float)
  | hasType (name : String)
  | age (direction : Age) (cutoff : Cutoff)

inductive Predicate where
  | test (t : Test)
  | and (conjuncts : List Predicate)
  | or (alternatives : List Predicate)
  | nor (alternatives : List Predicate)
  | not (inner : Predicate)
  | field (path : List String) (inner : Predicate)
  | exists (expected : Bool)
  | all (expected : List Literal)
  | size (n : Nat)
  | elemMatch (inner : Predicate)

namespace FieldPath

def maxIndex : Nat := Nat.pow 2 64 - 1

/-- Digits after an optional plus sign, as a 64-bit number. -/
def index? (segment : List Char) : Option Nat :=
  let digits := match segment with
    | '+' :: digits => digits
    | digits => digits
  if digits = [] ∨ !digits.all Char.isDigit then none
  else
    let index := Nat.ofDigitChars 10 digits 0
    if index ≤ maxIndex then some index else none

/-- What one segment selects in a value: the value of a key, the element at an index,
or the values of a key in all elements. -/
def step (segment : String) : Literal → List Literal
  | .mapping entries => (Literal.lookup segment entries).toList
  | .sequence items =>
      match index? segment.toList with
      | some i => items[i]?.toList
      | none => items.filterMap (Literal.get? segment)
  | _ => []

def select : List String → List Literal → List Literal
  | [], values => values
  | segment :: path, values => select path (values.flatMap (step segment))

end FieldPath

/-- A regular expression equals the strings it is found in. -/
def equalOrMatch (expected value : Literal) : Bool :=
  match expected, value with
  | .regex r, .string s => r.isFoundIn s
  | _, _ => expected.same value

/-- How a value lies to an expected one.  Only values of one type are ordered, except
that a text may be read as a date. -/
def order? (value expected : Literal) : Option Ordering :=
  match value, expected with
  | .number a, .number b => Number.compare? a b
  | .string a, .string b => some (compare a b)
  | .date a, .date b => some (compare a b)
  | .string a, .date b => (Instant.ofText? a.toList).map (compare · b)
  | .bool a, .bool b => some (compare a b)
  | _, _ => none

def Comparison.accepts (comparison : Comparison) (ordering : Ordering) : Bool :=
  match comparison with
  | .gt => ordering == .gt
  | .gte => ordering != .lt
  | .lt => ordering == .lt
  | .lte => ordering != .gt

/-- The instant that many milliseconds after the start of 1970, the number cut to a
whole one and held within 64 bits. -/
def instantOfNumber? (x : Float) : Option Instant :=
  if Number.isFinite x then Instant.ofMilliseconds? (Number.toInt64 x) else none

def instantOf? : Literal → Option Instant
  | .date t => some t
  | .string s => Instant.ofText? s.toList
  | .number x => instantOfNumber? x
  | _ => none

def Cutoff.instant? (now : Instant) : Cutoff → Option Instant
  | .relative milliseconds => now.shift? (-milliseconds)
  | .absolute t => some t

def Age.accepts (direction : Age) (t cutoff : Instant) : Bool :=
  match direction with
  | .olderThan => compare t cutoff == .lt
  | .newerThan => compare t cutoff == .gt

namespace Test

def accepts (now : Instant) : Test → Literal → Bool
  | .equals expected, value => expected.same value
  | .compares comparison expected, value => (order? value expected).any comparison.accepts
  | .isIn candidates, value => candidates.any (equalOrMatch · value)
  | .matchesRegex r, .string s => r.isFoundIn s
  | .matchesRegex r, .regex r' => r' == r
  | .matchesRegex _, _ => false
  | .mod divisor remainder, .number x =>
      Number.equal (Number.remainder x divisor) remainder
  | .mod _ _, _ => false
  | .hasType name, value => value.typeName == name
  | .age direction cutoff, value =>
      match instantOf? value, cutoff.instant? now with
      | some t, some limit => direction.accepts t limit
      | _, _ => false

/-- Only equality with null holds for an undefined field. -/
def acceptsUndefined : Test → Bool
  | .equals expected => expected.isNull
  | .isIn candidates => candidates.any Literal.isNull
  | _ => false

/-- A value passes by itself or by one of its elements. -/
def acceptsSome (now : Instant) (t : Test) (value : Literal) : Bool :=
  t.accepts now value ||
    match value with
    | .sequence items => items.any (t.accepts now)
    | _ => false

def holds (now : Instant) (t : Test) (values : List Literal) : Bool :=
  if values.isEmpty then t.acceptsUndefined else values.any (t.acceptsSome now)

end Test

def hasAll (expected : List Literal) : Literal → Bool
  | .sequence items => expected.all fun e => items.any (equalOrMatch e)
  | _ => false

def hasSize (n : Nat) : Literal → Bool
  | .sequence items => items.length == n
  | _ => false

namespace Predicate

mutual

def holds (now : Instant) : Predicate → List Literal → Bool
  | .test t, values => t.holds now values
  | .and ps, values => allHold now ps values
  | .or ps, values => anyHolds now ps values
  | .nor ps, values => !anyHolds now ps values
  | .not inner, values => !inner.holds now values
  | .field path inner, values => inner.holds now (FieldPath.select path values)
  | .exists expected, values => (!values.isEmpty) == expected
  | .all expected, values => values.any (hasAll expected)
  | .size n, values => values.any (hasSize n)
  | .elemMatch inner, values => values.any fun
      | .sequence items => items.any fun item => inner.holds now [item]
      | _ => false

def allHold (now : Instant) : List Predicate → List Literal → Bool
  | [], _ => true
  | p :: ps, values => p.holds now values && allHold now ps values

def anyHolds (now : Instant) : List Predicate → List Literal → Bool
  | [], _ => false
  | p :: ps, values => p.holds now values || anyHolds now ps values

end

/-- What holds of the parts of a predicate, and so of the predicate, holds of all predicates. -/
theorem inductionOnParts {motive : Predicate → Prop} (test : ∀ t, motive (.test t))
    (and : ∀ ps, (∀ p ∈ ps, motive p) → motive (.and ps))
    (or : ∀ ps, (∀ p ∈ ps, motive p) → motive (.or ps))
    (nor : ∀ ps, (∀ p ∈ ps, motive p) → motive (.nor ps))
    (not : ∀ inner, motive inner → motive (.not inner))
    (field : ∀ path inner, motive inner → motive (.field path inner))
    (presence : ∀ expected, motive (.exists expected)) (all : ∀ expected, motive (.all expected))
    (size : ∀ n, motive (.size n)) (elemMatch : ∀ inner, motive inner → motive (.elemMatch inner))
    (p : Predicate) : motive p :=
  @Predicate.rec motive (fun ps => ∀ p ∈ ps, motive p) test and or nor not field presence all size
    elemMatch (List.forall_mem_nil _) (fun _ _ hp hps => List.forall_mem_cons.2 ⟨hp, hps⟩) p

end Predicate

end RuleBook
