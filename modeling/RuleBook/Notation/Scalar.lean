import RuleBook.Notation.Layout
import RuleBook.Text.Hex

/-!
# Scalars of the notation

The lexical forms of scalars, each as a function that takes the longest such form off
the front of a text.
-/

namespace RuleBook.Notation

def takeRun (test : Char → Bool) (text : List Char) : Option (List Char × List Char) :=
  some (text.span test)

def takeRun1? (test : Char → Bool) (text : List Char) : Option (List Char × List Char) :=
  match text.span test with
  | ([], _) => none
  | (run, rest) => some (run, rest)

def takeDigits? (count : Nat) (text : List Char) : Option (List Char × List Char) :=
  let digits := text.take count
  if digits.length = count ∧ digits.all Char.isDigit then some (digits, text.drop count)
  else none

def takeChar? (test : Char → Bool) : List Char → Option (List Char × List Char)
  | [] => none
  | c :: text => if test c then some ([c], text) else none

abbrev Form := List Char → Option (List Char × List Char)

namespace Form

def andThen (f g : Form) : Form := fun text => do
  let (first, rest) ← f text
  let (second, rest) ← g rest
  some (first ++ second, rest)

def sequence (f : Form) (fs : List Form) : Form := fs.foldl andThen f

def orElse (f g : Form) : Form := fun text => f text <|> g text

def optional (f : Form) : Form := orElse f fun text => some ([], text)

def word (letters : String) : Form := fun text =>
  if letters.toList.isPrefixOf text then some (letters.toList, text.drop letters.length)
  else none

end Form

open Form

def digits1 : Form := takeRun1? Char.isDigit

def sign : Form := takeChar? fun c => c == '+' || c == '-'

def wholeForm : Form
  | '0' :: text => some (['0'], text)
  | text => digits1 text

def exponentForm : Form :=
  sequence (takeChar? fun c => c == 'e' || c == 'E') [optional sign, digits1]

def numberForm : Form :=
  sequence (optional (word "-"))
    [wholeForm, optional (andThen (word ".") digits1), optional exponentForm]

def hexForm : Form :=
  sequence (optional (word "-"))
    [word "0", takeChar? fun c => c == 'x' || c == 'X', takeRun1? Text.isHexDigit]

def clockForm : Form :=
  sequence (takeDigits? 2) [word ":", takeDigits? 2, word ":", takeDigits? 2]

def offsetForm : Form :=
  orElse (word "Z") (sequence sign [takeDigits? 2, word ":", takeDigits? 2])

def dateForm : Form :=
  sequence (takeDigits? 4)
    [word "-", takeDigits? 2, word "-", takeDigits? 2,
      optional (sequence (word "T")
        [clockForm, optional (andThen (word ".") digits1), offsetForm])]

def specialForm : Form := orElse (andThen (optional sign) (word "inf")) (word "NaN")

def constantForm : Form := orElse (word "true") (orElse (word "false") (word "null"))

def classTail? : Form
  | [] => none
  | ']' :: text => some ([']'], text)
  | '\\' :: c :: text =>
      if isLineBreak c then none
      else (classTail? text).map fun (tail, rest) => ('\\' :: c :: tail, rest)
  | c :: text =>
      if c = '\\' ∨ isLineBreak c then none
      else (classTail? text).map fun (tail, rest) => (c :: tail, rest)

/-- A class, an escaped character or a single character of a regular expression.  A
bracket that is not closed stands for itself. -/
def regexPart? : Form
  | '[' :: text =>
      match classTail? text with
      | some (tail, rest) => some ('[' :: tail, rest)
      | none => some (['['], text)
  | '\\' :: c :: text => if isLineBreak c then none else some (['\\', c], text)
  | c :: text => if c = '/' ∨ c = '\\' ∨ isLineBreak c then none else some ([c], text)
  | [] => none

def regexParts : Nat → List Char → List Char × List Char
  | 0, text => ([], text)
  | fuel + 1, text =>
      match regexPart? text with
      | some (part, rest) =>
          let (parts, rest) := regexParts fuel rest
          (part ++ parts, rest)
      | none => ([], text)

def regexSourceForm : Form
  | '*' :: _ => none
  | text =>
      match regexParts text.length text with
      | ([], _) => none
      | (source, rest) => some (source, rest)

def regexFlagsForm : Form := takeRun "dgimsuvxy".toList.contains

/-- The inside of a string up to its closing quote.  A backslash takes the character
after it along, and lines are not left. -/
def quotedForm (quote : Char) : List Char → List Char × List Char
  | [] => ([], [])
  | '\\' :: c :: text =>
      if isLineBreak c then ([], '\\' :: c :: text)
      else
        let (inside, rest) := quotedForm quote text
        ('\\' :: c :: inside, rest)
  | c :: text =>
      if c = quote ∨ c = '\\' ∨ isLineBreak c then ([], c :: text)
      else
        let (inside, rest) := quotedForm quote text
        (c :: inside, rest)

def blockForm : List Char → List Char × List Char
  | [] => ([], [])
  | '\'' :: '\'' :: '\'' :: text => ([], '\'' :: '\'' :: '\'' :: text)
  | c :: text =>
      let (inside, rest) := blockForm text
      (c :: inside, rest)

def isBareKeyChar (c : Char) : Bool :=
  !(":,\x7b\x7d[]\"' \t".toList.contains c || isLineBreak c)

def bareKeyForm : Form := takeRun1? isBareKeyChar

def plainForm : Form
  | [] => none
  | c :: text =>
      if ":,\x7b\x7d[]\"'".toList.contains c then none
      else takeRun1? (fun c => !(",\x7d]".toList.contains c || isLineBreak c)) (c :: text)

def plainLineForm : Form
  | [] => none
  | c :: text =>
      if "\x7b[\"'".toList.contains c then none
      else takeRun1? (fun c => !isLineBreak c) (c :: text)

end RuleBook.Notation
