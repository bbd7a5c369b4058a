import RuleBook.Json.Read
import RuleBook.Notation.Write

/-!
# Literals as JSON

Dates and regular expressions become strings, binary values become arrays of bytes,
and numbers that are not finite become null.  A literal has one form that keeps the
order of its entries and one whose members are sorted.
-/

namespace RuleBook.Literal

def numberToJson (x : Float) : Json := if Number.isFinite x then .number x else .null

def dateToJson (t : Instant) : Json := .string (String.ofList t.timestampText)

def regexToJson (r : RegexLiteral) : Json :=
  .string (String.ofList (Notation.regexText r.source.toList r.flags.toList))

def binaryToJson (bytes : List UInt8) : Json :=
  .array (bytes.map fun byte => .natural byte.toNat)

mutual

def toJson : Literal → Json
  | .null => .null
  | .bool b => .bool b
  | .number x => numberToJson x
  | .string s => .string s
  | .date t => dateToJson t
  | .regex r => regexToJson r
  | .binary bytes => binaryToJson bytes
  | .sequence items => .array (itemsToJson items)
  | .mapping entries => .object (entriesToJson entries)

def itemsToJson : List Literal → List Json
  | [] => []
  | item :: items => toJson item :: itemsToJson items

def entriesToJson : List (String × Literal) → List (String × Json)
  | [] => []
  | (key, value) :: entries => (key, toJson value) :: entriesToJson entries

end

mutual

def toSortedJson : Literal → Json
  | .null => .null
  | .bool b => .bool b
  | .number x => numberToJson x
  | .string s => .string s
  | .date t => dateToJson t
  | .regex r => regexToJson r
  | .binary bytes => binaryToJson bytes
  | .sequence items => .array (itemsToSortedJson items)
  | .mapping entries => .object (insertEntries entries [])

def itemsToSortedJson : List Literal → List Json
  | [] => []
  | item :: items => toSortedJson item :: itemsToSortedJson items

def insertEntries : List (String × Literal) → List (String × Json) → List (String × Json)
  | [], sorted => sorted
  | (key, value) :: entries, sorted =>
      insertEntries entries (Json.insertMember key (toSortedJson value) sorted)

end

mutual

def ofJson : Json → Literal
  | .null => .null
  | .bool b => .bool b
  | .natural n => .number (Number.ofInt n)
  | .number x => .number x
  | .string s => .string s
  | .array items => .sequence (ofJsonItems items)
  | .object members => ofEntries (ofJsonMembers members)

def ofJsonItems : List Json → List Literal
  | [] => []
  | item :: items => ofJson item :: ofJsonItems items

def ofJsonMembers : List (String × Json) → List (String × Literal)
  | [] => []
  | (key, value) :: members => (key, ofJson value) :: ofJsonMembers members

end

def parseJson (text : String) : Except ParseError Literal :=
  match Json.parse? text.toList with
  | some value => .ok (ofJson value)
  | none => .error .json

end RuleBook.Literal
