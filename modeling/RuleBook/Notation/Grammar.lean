import RuleBook.Instant.Text
import RuleBook.Literal.Basic
import RuleBook.Notation.Escape
import RuleBook.Notation.Reader
import RuleBook.Notation.Scalar
import RuleBook.Number.Decimal

/-!
# The grammar of the notation

Regular expressions, hexadecimal numbers, dates and arithmetic are tried before the
relaxed JSON they extend.  A scalar counts as such only where it may end; otherwise
its text is read on as unquoted text.

Values that are malformed inside, such as a pattern that does not compile, are errors
only once the whole text is read, so readers give results of type `Except`.
-/

namespace RuleBook.Notation

open Reader

abbrev Built := Except ParseError Literal

def endOfText : Reader Unit := token fun
  | [] => some ((), [])
  | _ :: _ => none

def valueEnd : Reader Unit := do
  skip skipInline
  orElse (expect fun text => if endsScalar text then some text else none) endOfText

def scalar (p : Reader Built) : Reader Built := do
  let value ← p
  ahead valueEnd
  return value

def numberOf (text : List Char) : Float := (Number.ofText? text).getD Number.nan

/-- Hexadecimal digits have to fit a signed 64-bit integer before the sign is
applied. -/
def hexNumberOf (text : List Char) : Except ParseError Float :=
  let (negative, digits) := match text with
    | '-' :: digits => (true, digits)
    | digits => (false, digits)
  match (Text.hexNumber? (digits.drop 2)).filter (· < Nat.pow 2 63) with
  | some n => .ok (if negative then -Number.ofInt n else Number.ofInt n)
  | none => .error (.hexOverflow text)

def number : Reader Float := numberOf <$> token numberForm

def hexNumber : Reader (Except ParseError Float) := hexNumberOf <$> token hexForm

def specialOf (text : List Char) : Float :=
  if text = "NaN".toList then Number.nan
  else Number.infinity (text.head? == some '-')

inductive Operation where
  | add
  | subtract
  | multiply
  | divide
  | remainder
  deriving Repr, DecidableEq

def Operation.apply : Operation → Float → Float → Float
  | .add, a, b => a + b
  | .subtract, a, b => a - b
  | .multiply, a, b => a * b
  | .divide, a, b => a / b
  | .remainder, a, b => Number.remainder a b

def sumOperation : Reader Operation := token fun
  | '+' :: text => some (.add, text)
  | '-' :: text => some (.subtract, text)
  | _ => none

def productOperation : Reader Operation := token fun
  | '*' :: text => some (.multiply, text)
  | '/' :: text => some (.divide, text)
  | '%' :: text => some (.remainder, text)
  | _ => none

def minus : Reader Unit := token fun
  | '-' :: text => some ((), text)
  | _ => none

def foldOperations (first : Except ParseError Float)
    (rest : List (Operation × Except ParseError Float)) : Except ParseError Float :=
  rest.foldl
    (fun total (operation, operand) => do return operation.apply (← total) (← operand))
    first

def chain (operation : Reader Operation) (operand : Reader (Except ParseError Float)) :
    Reader (Except ParseError Float) := rule do
  let first ← operand
  let rest ← many do
    skip skipInline
    let operation ← operation
    skip skipInline
    let operand ← operand
    return (operation, operand)
  return foldOperations first rest

def negateOf (negated : Option Unit) (value : Except ParseError Float) :
    Except ParseError Float :=
  if negated.isSome then value.map (-1.0 * ·) else value

def factor (sum : Reader (Except ParseError Float)) : Reader (Except ParseError Float) :=
  rule do
    let negated ← optional minus
    let group := rule do
      char '('
      skip skipInline
      let value ← sum
      skip skipInline
      char ')'
      return value
    let value ← firstOf group [hexNumber, .ok <$> number]
    return negateOf negated value

/-- A sum of products; the fuel bounds how deep parentheses are nested. -/
def sum : Nat → Reader (Except ParseError Float)
  | 0 => fail
  | fuel + 1 => chain sumOperation (chain productOperation (factor (sum fuel)))

/-- Arithmetic that is more than a number standing alone. -/
def arithmetic (fuel : Nat) : Reader (Except ParseError Float) := rule do
  orElse ((fun text => .ok (specialOf text)) <$> token specialForm) do
    notAhead do
      let _ ← number
      valueEnd
    sum fuel

def regexOf (source flags : List Char) : Built :=
  .regex <$> RegexLiteral.ofSource (String.ofList source) (String.ofList flags)

def regexValue : Reader Built := rule do
  char '/'
  let source ← token regexSourceForm
  char '/'
  let flags ← token regexFlagsForm
  return regexOf source flags

/-- A date that the calendar does not have is the text it is written as. -/
def dateOf (text : List Char) : Literal :=
  match Instant.ofText? text with
  | some t => .date t
  | none => .string (String.ofList text)

def constantOf (text : List Char) : Literal :=
  if text = "true".toList then .bool true
  else if text = "false".toList then .bool false
  else .null

def plainOf (text : List Char) : Literal := .string (String.ofList (Text.trimEnd text))

/-- One line break after the opening quotes and one before the closing quotes do not
belong to the string. -/
def blockOf (text : List Char) : List Char :=
  let text := match text with
    | '\n' :: text => text
    | text => text
  if text.getLast? = some '\n' then text.dropLast else text

def quotedString (quote : Char) : Reader (List Char) := rule do
  char quote
  let inside ← token fun text => some (quotedForm quote text)
  char quote
  return unescape inside

def blockString : Reader (List Char) := rule do
  expect fun text => (Form.word "'''" text).map (·.2)
  let inside ← token fun text => some (blockForm text)
  expect fun text => (Form.word "'''" text).map (·.2)
  return blockOf inside

def stringText : Reader (List Char) :=
  firstOf blockString [quotedString '"', quotedString '\'']

def collectItems : List Built → Except ParseError (List Literal)
  | [] => .ok []
  | item :: items => do
      let item ← item
      let items ← collectItems items
      return item :: items

def collectEntries : List (List Char × Built) → Except ParseError (List (String × Literal))
  | [] => .ok []
  | (key, value) :: entries => do
      let value ← value
      let entries ← collectEntries entries
      return (String.ofList key, value) :: entries

def members {α : Type} (opening closing : Char) (member : Reader α) : Reader (List α) := do
  char opening
  skip skipLayout
  let found ← optional do
    let first ← member
    let rest ← many do
      expect takeSeparator?
      member
    let _ ← optional (expect takeTrailingComma?)
    return first :: rest
  skip skipLayout
  char closing
  return found.getD []

def objectMember (value : Reader Built) : Reader (List Char × Built) := rule do
  let key ← orElse stringText (token bareKeyForm)
  skip skipInline
  char ':'
  skip skipLayout
  let value ← value
  return (key, value)

def object (value : Reader Built) : Reader Built := rule do
  let entries ← members '\x7b' '\x7d' (objectMember value)
  return Literal.ofEntries <$> collectEntries entries

def array (value : Reader Built) : Reader Built := rule do
  let items ← members '[' ']' value
  return Literal.sequence <$> collectItems items

/-- A value anywhere in a text; the fuel bounds how deep values are nested. -/
def value : Nat → Reader Built
  | 0 => fail
  | fuel + 1 =>
      firstOf (scalar regexValue)
        [scalar (Except.map Literal.number <$> hexNumber),
          scalar ((fun text => .ok (dateOf text)) <$> token dateForm),
          scalar (Except.map Literal.number <$> arithmetic (fuel + 1)),
          object (value fuel),
          array (value fuel),
          (fun text => .ok (.string (String.ofList text))) <$> stringText,
          scalar ((fun text => .ok (constantOf text)) <$> token constantForm),
          scalar ((fun x => .ok (.number x)) <$> number),
          (fun text => .ok (plainOf text)) <$> token plainForm]

/-- A whole text: a value, or one line of unquoted text. -/
def document (fuel : Nat) : Reader Built := do
  skip skipLayout
  let toEnd (p : Reader Built) : Reader Built := do
    let value ← p
    skip skipLayout
    endOfText
    return value
  orElse (toEnd (value fuel))
    (toEnd ((fun text => .ok (plainOf text)) <$> token plainLineForm))

end RuleBook.Notation
