import RuleBook.Instant.Text
import RuleBook.Literal.Basic
import RuleBook.Notation.Escape
import RuleBook.Number.Decimal

/-!
# Writing literals

The text of a literal on one line, in a form that reads as the same literal.
-/

namespace RuleBook

namespace Notation

def numberStyle : DecimalStyle := ⟨.up, none, false⟩

def numberText (x : Float) : List Char :=
  if Number.isNaN x then "NaN".toList
  else if Number.isFinite x then numberStyle.text x
  else if Number.isNegative x then "-inf".toList
  else "+inf".toList

/-- Puts a backslash before every slash that would end the literal early.  The state
says whether the character before was a backslash and whether a class is open. -/
def protectSlashes : Bool → Bool → List Char → List Char
  | _, _, [] => []
  | true, inClass, c :: source => c :: protectSlashes false inClass source
  | false, inClass, c :: source =>
      if c = '\\' then c :: protectSlashes true inClass source
      else if c = '[' then c :: protectSlashes false true source
      else if c = ']' then c :: protectSlashes false false source
      else if c = '/' ∧ !inClass then '\\' :: c :: protectSlashes false inClass source
      else c :: protectSlashes false inClass source

/-- An empty source is written as an empty group. -/
def regexText (source flags : List Char) : List Char :=
  let shown := if source = [] then "(?:)".toList else protectSlashes false false source
  '/' :: shown ++ '/' :: flags

def isBareKeyRest (c : Char) : Bool :=
  !Text.isBlank c && !(",:[]\x7b\x7d\"'".toList.contains c)

/-- Keys that need no quotes: they are not empty, begin no comment or regular
expression and hold no blanks or marks of structure. -/
def isBareKey : List Char → Bool
  | [] => false
  | c :: key => c != '#' && c != '/' && isBareKeyRest c && key.all isBareKeyRest

def keyText (key : List Char) : List Char := if isBareKey key then key else quote key

def bytesText (bytes : List UInt8) : List Char :=
  quote (bytes.flatMap fun byte => Text.hexText 2 byte.toNat)

mutual

def write : Literal → List Char
  | .null => "null".toList
  | .bool true => "true".toList
  | .bool false => "false".toList
  | .number x => numberText x
  | .string s => quote s.toList
  | .date t => t.shortText
  | .regex r => regexText r.source.toList r.flags.toList
  | .binary bytes => bytesText bytes
  | .sequence [] => ['[', ']']
  | .sequence (item :: items) => '[' :: write item ++ writeItems items
  | .mapping [] => ['\x7b', '\x7d']
  | .mapping ((key, value) :: entries) =>
      '\x7b' :: keyText key.toList ++ ':' :: ' ' :: write value ++ writeEntries entries

def writeItems : List Literal → List Char
  | [] => [']']
  | item :: items => ',' :: ' ' :: write item ++ writeItems items

def writeEntries : List (String × Literal) → List Char
  | [] => ['\x7d']
  | (key, value) :: entries =>
      ',' :: ' ' :: keyText key.toList ++ ':' :: ' ' :: write value ++ writeEntries entries

end

end Notation

def Literal.text (x : Literal) : String := String.ofList (Notation.write x)

end RuleBook
