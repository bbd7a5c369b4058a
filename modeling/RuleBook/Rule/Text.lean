import RuleBook.Notation.Parse
import RuleBook.Rule.Basic

/-!
# Rules as texts

A rule is written `head --> tail #== name`, where the tail and the name may be left
out.  A separator counts only where the text before it reads as a literal, so the same
token inside a string or a regular expression is left alone.
-/

namespace RuleBook

structure WrittenRule where
  head : Literal
  tail? : Option Literal
  name? : Option (List Char)

namespace WrittenRule

/-- Cuts a text at the first separator that follows a literal: the literal, and the text
after the separator. -/
def splitLiteral? (separator text : List Char) : Option (Literal × List Char) :=
  (Text.occurrences separator text).findSome? fun (before, after) =>
    match Notation.parse (Text.trim before) with
    | .ok x => some (x, after)
    | .error _ => none

def readNamed (separator text : List Char) :
    Except ParseError (Literal × Option (List Char)) :=
  match splitLiteral? separator text with
  | some (x, name) => .ok (x, some (Text.trim name))
  | none => do
      let x ← Notation.parse (Text.trim text)
      return (x, none)

def read (separators : Separators) (text : List Char) : Except ParseError WrittenRule :=
  match splitLiteral? separators.headTail.toList text with
  | some (head, rest) => do
      let (tail, name?) ← readNamed separators.name.toList rest
      return ⟨head, some tail, name?⟩
  | none => do
      let (head, name?) ← readNamed separators.name.toList text
      return ⟨head, none, name?⟩

end WrittenRule

namespace Rule

/-- A tail in the text wins over the given one; a name in the text is used only when
none is given. -/
def ofText (separators : Separators) (text : String) (tail? : Option Literal)
    (name : String) : Except Error Rule :=
  match WrittenRule.read separators text.toList with
  | .error cause => .error (.parse cause)
  | .ok written =>
      let embedded := String.ofList (written.name?.getD [])
      ofParts written.head (written.tail?.or tail?) (if name = "" then embedded else name)

def nameOfItem : Option Literal → Except Error String
  | none => .ok ""
  | some (.string name) => .ok name
  | some other => .error (.invalidRule (.name (Notation.write other)))

/-- A rule from a sequence of its head, its tail and its name, of which the head is
needed.  A string in the place of the head is read as the text of a rule. -/
def ofSequence (separators : Separators) (parts : Literal) : Except Error Rule :=
  let refusal : Except Error Rule := .error (.invalidRule (.parts (Notation.write parts)))
  match parts with
  | .sequence items => do
      let name ← nameOfItem items[2]?
      match items with
      | [] => refusal
      | _ :: _ :: _ :: _ :: _ => refusal
      | .string text :: rest => ofText separators text rest.head? name
      | head :: rest => ofParts head rest.head? name
  | _ => refusal

/-- Line feeds are left out of head and tail. -/
def write (separators : Separators) (rule : Rule) : List Char :=
  let body := Notation.write rule.head ++ ' ' :: separators.headTail.toList ++
    ' ' :: Notation.write rule.tail
  let body := body.filter (· != '\n')
  if rule.name = "" then body
  else body ++ ' ' :: separators.name.toList ++ ' ' :: rule.name.toList

def text (separators : Separators) (rule : Rule) : String :=
  String.ofList (rule.write separators)

instance : BEq Rule := ⟨fun a b => a.write {} == b.write {}⟩

end Rule

end RuleBook
