import RuleBook.Regex.Tree
import RuleBook.Unicode.Property

/-!
# Looks

Questions about the characters on both sides of a position, which take no character.
-/

namespace RuleBook.Regex

def asciiWord : CharSet := ⟨[(0x30, 0x39), (0x41, 0x5a), (0x5f, 0x5f), (0x61, 0x7a)]⟩

def wordSet (unicode : Bool) : CharSet :=
  if unicode then Unicode.wordCharacters else asciiWord

inductive Look where
  | textStart
  | textEnd
  | lineStart (crlf : Bool)
  | lineEnd (crlf : Bool)
  | word (look : WordLook) (unicode : Bool)
  deriving Repr, DecidableEq

def WordLook.holds (look : WordLook) (before after : Bool) : Bool :=
  match look with
  | .boundary => before != after
  | .noBoundary => before == after
  | .start => !before && after
  | .finish => before && !after
  | .startHalf => !before
  | .finishHalf => !after

def Look.holds (look : Look) (before after : Option Char) : Bool :=
  match look with
  | .textStart => before == none
  | .textEnd => after == none
  | .lineStart false => before == none || before == some '\n'
  | .lineEnd false => after == none || after == some '\n'
  | .lineStart true =>
      before == none || before == some '\n' || (before == some '\r' && after != some '\n')
  | .lineEnd true =>
      after == none || after == some '\r' || (after == some '\n' && before != some '\r')
  | .word look unicode =>
      let set := wordSet unicode
      look.holds (before.any fun c => set.contains c.toNat)
        (after.any fun c => set.contains c.toNat)

end RuleBook.Regex
