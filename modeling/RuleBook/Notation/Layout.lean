/-!
# Layout of the notation

Blanks, line breaks and comments, the separators between members, and what may end a
scalar.  Nothing here is worth reporting when a text fails to read, so these are
plain functions on the rest of the text.
-/

namespace RuleBook.Notation

def isLineBreak (c : Char) : Bool := c == '\n' || c == '\r'

def takeLineBreak? : List Char → Option (List Char)
  | '\n' :: text => some text
  | '\r' :: '\n' :: text => some text
  | '\r' :: text => some text
  | _ => none

def takeLineComment? : List Char → Option (List Char)
  | '#' :: text => some (text.dropWhile (!isLineBreak ·))
  | '/' :: '/' :: text => some (text.dropWhile (!isLineBreak ·))
  | _ => none

def afterBlock? : List Char → Option (List Char)
  | [] => none
  | '*' :: '/' :: text => some text
  | _ :: text => afterBlock? text

def takeBlockComment? : List Char → Option (List Char)
  | '/' :: '*' :: text => afterBlock? text
  | _ => none

def takeBlank? : List Char → Option (List Char)
  | ' ' :: text => some text
  | '\t' :: text => some text
  | _ => none

def skipMany (step : List Char → Option (List Char)) : Nat → List Char → List Char
  | 0, text => text
  | fuel + 1, text =>
      match step text with
      | some rest => skipMany step fuel rest
      | none => text

def skipInline (text : List Char) : List Char :=
  skipMany (fun text => takeBlank? text <|> takeBlockComment? text) text.length text

def skipLayout (text : List Char) : List Char :=
  skipMany
    (fun text =>
      takeBlank? text <|> takeLineBreak? text <|> takeLineComment? text <|>
        takeBlockComment? text)
    text.length text

/-- A comma, or a line break that may have a line comment before it. -/
def takeBreak? : List Char → Option (List Char)
  | ',' :: text => some text
  | text => takeLineBreak? ((takeLineComment? text).getD text)

def takeSeparator? (text : List Char) : Option (List Char) :=
  (takeBreak? (skipInline text)).map skipLayout

def takeTrailingComma? (text : List Char) : Option (List Char) :=
  match skipInline text with
  | ',' :: text => some text
  | _ => none

/-- Whether a scalar may end here because of what follows; the end of the text is not
looked at. -/
def endsScalar : List Char → Bool
  | ',' :: _ => true
  | '\x7d' :: _ => true
  | ']' :: _ => true
  | text => (takeLineBreak? text).isSome || (takeLineComment? text).isSome

end RuleBook.Notation
