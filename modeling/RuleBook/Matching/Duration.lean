import RuleBook.Number.Decimal
import RuleBook.Text.Blank

/-!
# Durations

Texts such as `90 minutes`, `2h` or `1.5 days`, as milliseconds.
-/

namespace RuleBook.Duration

/-- The names of units with their milliseconds; a year has 365.25 days. -/
def units : List (List String × Nat) :=
  [(["ms", "millisecond", "milliseconds"], 1),
    (["s", "sec", "secs", "second", "seconds"], 1000),
    (["m", "min", "mins", "minute", "minutes"], 60000),
    (["h", "hr", "hrs", "hour", "hours"], 3600000),
    (["d", "day", "days"], 86400000),
    (["w", "week", "weeks"], 604800000),
    (["y", "year", "years"], 31557600000)]

def unit? (name : List Char) : Option Nat :=
  (units.find? fun (names, _) => names.any (·.toList == name)).map (·.2)

def takeAmount? (text : List Char) : Option (List Char × List Char) :=
  match text.span Char.isDigit with
  | ([], _) => none
  | (whole, '.' :: after) =>
      match after.span Char.isDigit with
      | ([], _) => none
      | (fraction, rest) => some (whole ++ '.' :: fraction, rest)
  | (whole, rest) => some (whole, rest)

/-- The length of a duration in whole milliseconds, held within 64 bits.  Blanks may
stand around the amount and the unit. -/
def milliseconds? (text : List Char) : Option Int := do
  let (amount, rest) ← takeAmount? (Text.trimStart text)
  let amount ← Number.ofText? amount
  let unit ← unit? (Text.trim rest)
  some (Number.toInt64 (amount * Number.ofInt unit))

end RuleBook.Duration
