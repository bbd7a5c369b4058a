import RuleBook.Instant.Basic
import RuleBook.Literal.RegexLiteral
import RuleBook.Number.Exact

/-!
# Literals

The values that heads, tails and records are made of: scalars, sequences, and
mappings from keys to literals.  A mapping keeps the order of its entries, which
matters for writing and not for equality.
-/

namespace RuleBook

inductive Literal where
  | null
  | bool (b : Bool)
  | number (x : Float)
  | string (s : String)
  | date (t : Instant)
  | regex (r : RegexLiteral)
  | binary (bytes : List UInt8)
  | sequence (items : List Literal)
  | mapping (entries : List (String × Literal))
  deriving Inhabited

namespace Literal

def nan : Literal := .number Number.nan

def lookup (key : String) : List (String × Literal) → Option Literal
  | [] => none
  | (k, value) :: entries => if k = key then some value else lookup key entries

def insertEntry (key : String) (value : Literal) :
    List (String × Literal) → List (String × Literal)
  | [] => [(key, value)]
  | (k, old) :: entries =>
      if k = key then (k, value) :: entries else (k, old) :: insertEntry key value entries

/-- A mapping with unique keys: a repeated key keeps its first place and its last
value. -/
def ofEntries (entries : List (String × Literal)) : Literal :=
  .mapping (entries.foldl (fun kept (key, value) => insertEntry key value kept) [])

def get? (key : String) : Literal → Option Literal
  | .mapping entries => lookup key entries
  | _ => none

def asNumber? : Literal → Option Float
  | .number x => some x
  | _ => none

def asString? : Literal → Option String
  | .string s => some s
  | _ => none

def asBool? : Literal → Option Bool
  | .bool b => some b
  | _ => none

def asDate? : Literal → Option Instant
  | .date t => some t
  | _ => none

def asRegex? : Literal → Option RegexLiteral
  | .regex r => some r
  | _ => none

def isNull : Literal → Bool
  | .null => true
  | _ => false

/-- A whole number below `2 ^ 53` in magnitude. -/
def asInteger? : Literal → Option Int
  | .number x =>
      if Number.isWhole x ∧ (Number.toInt64 x).natAbs < Nat.pow 2 53 then some (Number.toInt64 x)
      else none
  | _ => none

def typeName : Literal → String
  | .null => "null"
  | .bool _ => "boolean"
  | .number _ => "number"
  | .string _ => "string"
  | .date _ => "date"
  | .regex _ => "regex"
  | .binary _ => "binary"
  | .sequence _ => "array"
  | .mapping _ => "object"

/-- What holds of every member of a container, and so of the container, holds of all
literals. -/
theorem inductionOnMembers {motive : Literal → Prop} (null : motive .null)
    (bool : ∀ b, motive (.bool b)) (number : ∀ x, motive (.number x))
    (string : ∀ s, motive (.string s)) (date : ∀ t, motive (.date t))
    (regex : ∀ r, motive (.regex r)) (binary : ∀ bytes, motive (.binary bytes))
    (sequence : ∀ items, (∀ item ∈ items, motive item) → motive (.sequence items))
    (mapping : ∀ entries, (∀ entry ∈ entries, motive entry.2) → motive (.mapping entries))
    (x : Literal) : motive x :=
  @Literal.rec motive (fun items => ∀ item ∈ items, motive item)
    (fun entries => ∀ entry ∈ entries, motive entry.2) (fun entry => motive entry.2)
    null bool number string date regex binary sequence mapping
    (List.forall_mem_nil _) (fun _ _ hitem hitems => List.forall_mem_cons.2 ⟨hitem, hitems⟩)
    (List.forall_mem_nil _) (fun _ _ hentry hentries => List.forall_mem_cons.2 ⟨hentry, hentries⟩)
    (fun _ _ hvalue => hvalue) x

end Literal

end RuleBook
