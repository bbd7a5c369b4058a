import RuleBook.CharSet
import RuleBook.Text.Separator

/-!
# Reading property tables

Tables of character properties are kept as texts, which may be broken into lines.  A
table of runs covers all code points from zero on, each run by its length and label; a
table of ranges gives, for each range, the gap before it and its length.
-/

namespace RuleBook.Unicode

structure Run where
  label : List Char
  first : Nat
  last : Nat
  deriving Repr, DecidableEq

def digitValue (c : Char) : Nat := c.toNat - '0'.toNat

def readRuns : List Char → Nat → Nat → List Char → List Run
  | [], start, length, label =>
      if label = [] then [] else [⟨label.reverse, start, start + length - 1⟩]
  | c :: text, start, length, label =>
      if c.isDigit then
        if label = [] then readRuns text start (10 * length + digitValue c) []
        else
          ⟨label.reverse, start, start + length - 1⟩ ::
            readRuns text (start + length) (digitValue c) []
      else if c = '\n' ∨ c = ' ' then readRuns text start length label
      else readRuns text start length (c :: label)

def decodeRuns (text : String) : List Run := readRuns text.toList 0 0 []

def words (text : String) : List (List Char) :=
  ((Text.splitOn ['\n'] text.toList).flatMap (Text.splitOn [' '])).filter (· != [])

def decodeNumbers (text : String) : List Nat :=
  (words text).map fun digits => Nat.ofDigitChars 10 digits 0

def readRanges : List Nat → Nat → List (Nat × Nat)
  | gap :: length :: rest, start =>
      (start + gap, start + gap + length - 1) :: readRanges rest (start + gap + length)
  | _, _ => []

def decodeRanges (text : String) : CharSet := ⟨readRanges (decodeNumbers text) 0⟩

end RuleBook.Unicode
