import RuleBook.Notation.Grammar

/-!
# Reading literals

From a text to the literal it denotes, or to the place where it stops being in the
notation.
-/

namespace RuleBook

namespace Place

def advance (line column : Nat) : List Char → Nat × Nat
  | [] => (line, column)
  | '\r' :: '\n' :: text => advance (line + 1) 1 text
  | '\n' :: text => advance (line + 1) 1 text
  | _ :: text => advance line (column + 1) text

/-- Line breaks are shown when the place is at one and dropped otherwise. -/
def showLine (atBreak : Bool) (line : List Char) : List Char :=
  Text.trimEnd
    (if atBreak then
      line.map fun c => if c = '\n' then '\u240a' else if c = '\r' then '\u240d' else c
    else line.filter fun c => c != '\n' && c != '\r')

def between (before after : List Char) : Place :=
  let (line, column) := advance 1 1 before
  let start := (before.reverse.takeWhile (· != '\n')).reverse
  let finish := after.takeWhile (· != '\n') ++ (after.dropWhile (· != '\n')).take 1
  let atBreak := after.head? == some '\n' || after.head? == some '\r'
  ⟨line, column, showLine atBreak (start ++ finish)⟩

def ofLeft (text : List Char) (left : Nat) : Place :=
  between (text.take (text.length - left)) (text.drop (text.length - left))

end Place

namespace Notation

/-- Reads a literal.  Nesting takes characters, so the length of the text is fuel
enough. -/
def parse (text : List Char) : Except ParseError Literal :=
  let reading := document (text.length + 1) text
  match reading.result with
  | some (value, _) => value
  | none => .error (.grammar (Place.ofLeft text (reading.trail.refused.getD text.length)))

end Notation

def Literal.parse (text : String) : Except ParseError Literal := Notation.parse text.toList

end RuleBook
