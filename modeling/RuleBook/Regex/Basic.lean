import RuleBook.Regex.Automaton
import RuleBook.Regex.Meaning
import RuleBook.Regex.Pattern

/-!
# Regular expressions

A compiled pattern answers whether a text contains a match.
-/

namespace RuleBook

structure Regex where
  meaning : Regex.Meaning
  deriving Repr, DecidableEq

namespace Regex

/-- The letters that change how a pattern is compiled: `i`, `m`, `s` and `x`. -/
def flagsOfLetters (letters : List Char) : Flags where
  ignoreCase := letters.contains 'i'
  multiLine := letters.contains 'm'
  dotAll := letters.contains 's'
  swapGreed := false
  unicode := true
  crlf := false

/-- A pattern that is malformed, names an unknown class or grows too large does not
compile. -/
def compile? (pattern letters : List Char) : Option Regex := do
  let tree ← Tree.ofPattern? (letters.contains 'x') pattern
  let (form, _) ← tree.toForm? (flagsOfLetters letters)
  if form.fits then some ⟨form.toExpr⟩ else none

def isFoundIn (regex : Regex) (text : List Char) : Bool :=
  (regex.meaning.map (fun set c => set.contains c.toNat) Look.holds).isFoundIn text

end Regex

end RuleBook
