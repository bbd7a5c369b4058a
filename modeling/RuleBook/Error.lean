import RuleBook.Operator

/-!
# Errors

Every way in which reading, building or matching fails, by its cause.  The wording
is in `message` alone.
-/

namespace RuleBook

structure Place where
  line : Nat
  column : Nat
  text : List Char
  deriving Repr, DecidableEq

inductive ParseError where
  /-- The text is not in the notation; the place is the farthest one that a rule was
  tried at in vain. -/
  | grammar (place : Place)
  | hexOverflow (text : List Char)
  | unknownFlag (flag : Char) (source flags : String)
  | invalidRegex (source flags : String)
  | json
  deriving Repr, DecidableEq

inductive OperandError where
  | array
  | boolean
  | count
  | divisorAndRemainder
  | typeName
  | text
  | textOrRegex
  | durationOrDate (operand : List Char)
  | pattern (cause : ParseError)
  deriving Repr, DecidableEq

inductive RuleError where
  | parts (given : List Char)
  | name (given : List Char)
  deriving Repr, DecidableEq

inductive Error where
  | parse (cause : ParseError)
  | unsupportedOperator (key : String)
  | invalidOperand (operator : Operator) (cause : OperandError)
  | pointerNotFound (pointer : String)
  | invalidRule (cause : RuleError)
  deriving Repr, DecidableEq

def typeNames : List String :=
  ["null", "boolean", "number", "string", "date", "regex", "binary", "array", "object"]

namespace ParseError

def cause : ParseError → String
  | .grammar place =>
      "at " ++ toString place.line ++ ":" ++ toString place.column ++ " in \x60" ++
        String.ofList place.text ++ "\x60"
  | .hexOverflow text =>
      "invalid hex literal " ++ String.ofList text ++
        ": number too large to fit in target type"
  | .unknownFlag flag source flags =>
      "unknown regex flag '" ++ String.singleton flag ++ "' in /" ++ source ++ "/" ++ flags
  | .invalidRegex source flags => "invalid regex /" ++ source ++ "/" ++ flags
  | .json => "invalid JSON"

def message (e : ParseError) : String := "Parse error: " ++ e.cause

end ParseError

def OperandError.message : OperandError → String
  | .array => "expected an array"
  | .boolean => "expected a boolean"
  | .count => "expected a non-negative integer"
  | .divisorAndRemainder => "expected [divisor, remainder]"
  | .typeName => "expected one of " ++ String.intercalate ", " typeNames
  | .text => "expected a string"
  | .textOrRegex => "expected a string or regex"
  | .durationOrDate operand => "expected a duration or date, got " ++ String.ofList operand
  | .pattern cause => cause.message

def RuleError.message : RuleError → String
  | .parts given => "expected [head, tail, name?], got " ++ String.ofList given
  | .name given => "rule name must be a string, got " ++ String.ofList given

def Error.message : Error → String
  | .parse cause => cause.message
  | .unsupportedOperator key => "Unsupported operator: " ++ key
  | .invalidOperand operator cause =>
      "Invalid operand for " ++ operator.key ++ ": " ++ cause.message
  | .pointerNotFound pointer => "Pointer not found: " ++ pointer
  | .invalidRule cause => "Invalid rule: " ++ cause.message

end RuleBook
