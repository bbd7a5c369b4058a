import RuleBook.Regex.Look

/-!
# Flags

Flags hold from where they stand to the end of their group.  With the Unicode flag off,
classes are sets of bytes; since texts are sequences of characters, a class must then
stay within ASCII.
-/

namespace RuleBook.Regex

structure Flags where
  ignoreCase : Bool
  multiLine : Bool
  dotAll : Bool
  swapGreed : Bool
  unicode : Bool
  crlf : Bool
  deriving Repr, DecidableEq

namespace Flags

def apply (flags : Flags) : FlagChange → Flags
  | (.ignoreCase, on) => { flags with ignoreCase := on }
  | (.multiLine, on) => { flags with multiLine := on }
  | (.dotAll, on) => { flags with dotAll := on }
  | (.unicode, on) => { flags with unicode := on }
  | (.crlf, on) => { flags with crlf := on }
  | (.swapGreed, on) => { flags with swapGreed := on }
  | (.extended, _) => flags

def applyAll (flags : Flags) (changes : List FlagChange) : Flags :=
  changes.foldl apply flags

def look (flags : Flags) : Assertion → Look
  | .textStart => .textStart
  | .textEnd => .textEnd
  | .lineStart => if flags.multiLine then .lineStart flags.crlf else .textStart
  | .lineEnd => if flags.multiLine then .lineEnd flags.crlf else .textEnd
  | .word look => .word look flags.unicode

end Flags

end RuleBook.Regex
