import RuleBook.Matching.Duration
import RuleBook.Matching.Predicate
import RuleBook.Notation.Write
import RuleBook.Reference

/-!
# From heads to predicates

In a mapping every key is a field path or an operator, and all of them have to hold.
Any other head has to equal the record.
-/

namespace RuleBook

namespace Operand

def reject {α : Type} (operator : Operator) (cause : OperandError) : Except Error α :=
  .error (.invalidOperand operator cause)

def items (operator : Operator) : Literal → Except Error (List Literal)
  | .sequence items => .ok items
  | _ => reject operator .array

/-- A boolean, or a number that is true unless it is zero or NaN. -/
def truth (operator : Operator) : Literal → Except Error Bool
  | .bool b => .ok b
  | .number x => .ok (Number.magnitudeBits x != 0 && !Number.isNaN x)
  | _ => reject operator .boolean

/-- A whole number that is not negative, held within 64 bits. -/
def count (operator : Operator) : Literal → Except Error Nat
  | .number x =>
      if Number.isWhole x ∧ 0 ≤ Number.orderKey x then .ok (Number.toUInt64 x)
      else reject operator .count
  | _ => reject operator .count

def divisorAndRemainder (operator : Operator) (operand : Literal) :
    Except Error (Float × Float) := do
  match ← items operator operand with
  | [.number divisor, .number remainder] => .ok (divisor, remainder)
  | _ => reject operator .divisorAndRemainder

def nameOfType (operator : Operator) : Literal → Except Error String
  | .string name => if typeNames.contains name then .ok name else reject operator .typeName
  | _ => reject operator .typeName

def regexOptions : Option Literal → Except Error String
  | none => .ok ""
  | some (.string flags) => .ok flags
  | some _ => reject .options .text

def regexOf (source flags : String) : Except Error RegexLiteral :=
  match RegexLiteral.ofSource source flags with
  | .ok r => .ok r
  | .error cause => reject .regex (.pattern cause)

/-- A source or a regular expression, with the flags beside it added. -/
def regex (operand : Literal) (options : Option Literal) : Except Error RegexLiteral := do
  let flags ← regexOptions options
  match operand with
  | .string source => regexOf source flags
  | .regex r => if flags = "" then .ok r else regexOf r.source (r.flags ++ flags)
  | _ => reject .regex .textOrRegex

/-- The least 64-bit number of milliseconds is out of range. -/
def relative? (milliseconds : Int) : Option Cutoff :=
  if Number.minInt64 < milliseconds then some (.relative milliseconds) else none

def cutoff? : Literal → Option Cutoff
  | .date t => some (.absolute t)
  | .number x => if Number.isFinite x then relative? (Number.toInt64 x) else none
  | .string s =>
      match Instant.ofText? s.toList with
      | some t => some (.absolute t)
      | none => (Duration.milliseconds? s.toList).bind relative?
  | _ => none

def cutoff (operator : Operator) (operand : Literal) : Except Error Cutoff :=
  match cutoff? operand with
  | some cutoff => .ok cutoff
  | none => reject operator (.durationOrDate (Notation.write operand))

end Operand

namespace Predicate

/-- A regular expression is matched and not compared. -/
def equalTo : Literal → Predicate
  | .regex r => .test (.matchesRegex r)
  | expected => .test (.equals expected)

def conjoin : List Predicate → Predicate
  | [p] => p
  | ps => .and ps

/-- The operators whose operands are no heads.  Options belong to the regular
expression beside them and give no predicate of their own. -/
def ofOperand (operator : Operator) (operand : Literal)
    (siblings : List (String × Literal)) : Except Error (Option Predicate) :=
  match operator with
  | .eq => .ok (some (equalTo operand))
  | .ne => .ok (some (.not (equalTo operand)))
  | .gt => .ok (some (.test (.compares .gt operand)))
  | .gte => .ok (some (.test (.compares .gte operand)))
  | .lt => .ok (some (.test (.compares .lt operand)))
  | .lte => .ok (some (.test (.compares .lte operand)))
  | .isIn => do
      let items ← Operand.items operator operand
      return some (.test (.isIn items))
  | .notIn => do
      let items ← Operand.items operator operand
      return some (.not (.test (.isIn items)))
  | .regex => do
      let r ← Operand.regex operand (Literal.lookup Operator.options.key siblings)
      return some (.test (.matchesRegex r))
  | .exists => do
      let expected ← Operand.truth operator operand
      return some (.exists expected)
  | .all => do
      let items ← Operand.items operator operand
      return some (.all items)
  | .size => do
      let n ← Operand.count operator operand
      return some (.size n)
  | .mod => do
      let (divisor, remainder) ← Operand.divisorAndRemainder operator operand
      return some (.test (.mod divisor remainder))
  | .type => do
      let name ← Operand.nameOfType operator operand
      return some (.test (.hasType name))
  | .olderThan => do
      let cutoff ← Operand.cutoff operator operand
      return some (.test (.age .olderThan cutoff))
  | .newerThan => do
      let cutoff ← Operand.cutoff operator operand
      return some (.test (.age .newerThan cutoff))
  | .options => .ok none
  | .not => .ok none
  | .and => .ok none
  | .or => .ok none
  | .nor => .ok none
  | .elemMatch => .ok none

def lookupOperator (key : String) : Except Error Operator :=
  match Operator.ofKey? key with
  | some operator => .ok operator
  | none => .error (.unsupportedOperator key)

def pathOfKey (key : String) : List String :=
  (Text.splitOn ['.'] key.toList).map String.ofList

mutual

def compile : Literal → Except Error Predicate
  | .mapping entries => do
      let conjuncts ← compileEntries entries entries
      return conjoin conjuncts
  | head => .ok (equalTo head)

def compileOperands (operator : Operator) : Literal → Except Error (List Predicate)
  | .sequence items => compileItems items
  | _ => Operand.reject operator .array

def compileItems : List Literal → Except Error (List Predicate)
  | [] => .ok []
  | item :: items => do
      let p ← compile item
      let ps ← compileItems items
      return p :: ps

/-- The conjuncts of entries in order; `siblings` are all entries of the mapping. -/
def compileEntries (siblings : List (String × Literal)) :
    List (String × Literal) → Except Error (List Predicate)
  | [] => .ok []
  | entry :: entries => do
      let conjunct ← compileEntry siblings entry
      let conjuncts ← compileEntries siblings entries
      return conjunct.toList ++ conjuncts

def compileEntry (siblings : List (String × Literal)) :
    String × Literal → Except Error (Option Predicate)
  | (key, operand) =>
      if Operator.isOperatorKey key then do
        match ← lookupOperator key with
        | .not => do
            let inner ← compile operand
            return some (.not inner)
        | .elemMatch => do
            let inner ← compile operand
            return some (.elemMatch inner)
        | .and => do
            let ps ← compileOperands .and operand
            return some (.and ps)
        | .or => do
            let ps ← compileOperands .or operand
            return some (.or ps)
        | .nor => do
            let ps ← compileOperands .nor operand
            return some (.nor ps)
        | operator => ofOperand operator operand siblings
      else do
        let inner ← compileField operand
        return some (.field (pathOfKey key) inner)

/-- A head under a field; an empty mapping asks for the field to be there. -/
def compileField : Literal → Except Error Predicate
  | .mapping [] => .ok (.exists true)
  | .mapping (entry :: entries) => do
      let conjuncts ← compileEntries (entry :: entries) (entry :: entries)
      return conjoin conjuncts
  | head => .ok (equalTo head)

end

mutual

/-- Fails on the first operator key that is unknown.  Markers are passed over, since
what they stand for is known only for a record. -/
def checkOperators : Literal → Except Error Unit
  | .sequence items => checkItems items
  | .mapping entries =>
      if (Literal.lookup Reference.markerKey entries).isSome then .ok ()
      else checkEntries entries
  | _ => .ok ()

def checkItems : List Literal → Except Error Unit
  | [] => .ok ()
  | item :: items => do
      checkOperators item
      checkItems items

def checkEntries : List (String × Literal) → Except Error Unit
  | [] => .ok ()
  | (key, value) :: entries => do
      if Operator.isOperatorKey key then
        let _ ← lookupOperator key
      checkOperators value
      checkEntries entries

end

def holdsFor (now : Instant) (p : Predicate) (record : Literal) : Bool :=
  p.holds now [record]

end Predicate

def Literal.matchesRecord (now : Instant) (head record : Literal) : Except Error Bool := do
  let p ← Predicate.compile head
  return p.holdsFor now record

end RuleBook
