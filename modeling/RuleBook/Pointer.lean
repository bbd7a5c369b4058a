import RuleBook.Error
import RuleBook.Literal.Basic
import RuleBook.Text.Separator

/-!
# Pointers into literals

A pointer is empty, for the whole document, or a sequence of tokens each after a
slash.  A token is a key of a mapping or an index of a sequence; `~1` stands for a
slash in it and `~0` for a tilde.
-/

namespace RuleBook

namespace Pointer

/-- Slashes are restored before tildes, so that `~01` is `~1`. -/
def unescape (token : List Char) : List Char :=
  let token := Text.join ['/'] (Text.splitOn ['~', '1'] token)
  Text.join ['~'] (Text.splitOn ['~', '0'] token)

def index? (token : List Char) : Option Nat :=
  if token = [] ∨ !token.all Char.isDigit ∨ (1 < token.length ∧ token.head? = some '0') then
    none
  else some (Nat.ofDigitChars 10 token 0)

def step? (document : Literal) (token : List Char) : Option Literal :=
  match document with
  | .mapping entries => Literal.lookup (String.ofList token) entries
  | .sequence items => (index? token).bind fun i => items[i]?
  | _ => none

def descend? (document : Literal) : List (List Char) → Option Literal
  | [] => some document
  | token :: tokens => (step? document token).bind (descend? · tokens)

/-- The tokens of a pointer; a pointer that is not empty begins with a slash. -/
def tokens? : List Char → Option (List (List Char))
  | [] => some []
  | '/' :: path => some ((Text.splitOn ['/'] path).map unescape)
  | _ => none

def resolve? (document : Literal) (pointer : List Char) : Option Literal :=
  (tokens? pointer).bind (descend? document)

end Pointer

namespace Literal

def pointer (document : Literal) (pointer : String) : Except Error Literal :=
  match Pointer.resolve? document pointer.toList with
  | some value => .ok value
  | none => .error (.pointerNotFound pointer)

end Literal

end RuleBook
