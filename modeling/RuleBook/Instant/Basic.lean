import RuleBook.Instant.Calendar

/-!
# Instants

An instant of Coordinated Universal Time to the nanosecond.  A leap second is kept
as a count of nanoseconds past the second before it, so it comes after that second
and before the next minute.
-/

namespace RuleBook

namespace Instant

def minSeconds : Int := CalendarDate.firstDay (-262143) * 86400

def maxSeconds : Int := CalendarDate.firstDay 262143 * 86400 - 1

abbrev Valid (seconds : Int) (nanos : Nat) : Prop :=
  minSeconds ≤ seconds ∧ seconds ≤ maxSeconds ∧
    (nanos < 1000000000 ∨ (seconds % 60 = 59 ∧ nanos < 2000000000))

end Instant

/-- Seconds since 1970 and nanoseconds; a leap second has a billion nanoseconds or
more. -/
structure Instant where
  seconds : Int
  nanos : Nat
  valid : Instant.Valid seconds nanos
  deriving DecidableEq

namespace Instant

def ofParts? (seconds : Int) (nanos : Nat) : Option Instant :=
  if h : Valid seconds nanos then some ⟨seconds, nanos, h⟩ else none

protected def compare (a b : Instant) : Ordering :=
  (compare a.seconds b.seconds).then (compare a.nanos b.nanos)

instance : Ord Instant := ⟨Instant.compare⟩

def date (t : Instant) : CalendarDate := .ofDays (t.seconds / 86400)

def secondOfDay (t : Instant) : Nat := (t.seconds % 86400).toNat

def isMidnight (t : Instant) : Bool := t.secondOfDay == 0 && t.nanos == 0

def ofDate? (date : CalendarDate) : Option Instant := ofParts? (date.toDays * 86400) 0

def ofMilliseconds? (milliseconds : Int) : Option Instant :=
  ofParts? (milliseconds / 1000) (milliseconds % 1000 * 1000000).toNat

def carry? (seconds nanos : Int) : Option Instant :=
  if nanos < 0 then ofParts? (seconds - 1) (nanos + 1000000000).toNat
  else if 1000000000 ≤ nanos then ofParts? (seconds + 1) (nanos - 1000000000).toNat
  else ofParts? seconds nanos.toNat

/-- Moves by a number of milliseconds.  A move that leaves a leap second starts from
the end of that second when it goes back and from its beginning when it goes on. -/
def shift? (t : Instant) (milliseconds : Int) : Option Instant :=
  let whole := milliseconds.tdiv 1000
  let part := milliseconds.tmod 1000 * 1000000
  if t.nanos < 1000000000 then carry? (t.seconds + whole) (t.nanos + part)
  else if 0 < whole ∨ (0 < part ∧ 2000000000 - part ≤ t.nanos) then
    carry? (t.seconds + whole) (t.nanos - 1000000000 + part)
  else if whole < 0 then
    carry? (t.seconds + 1 + whole) (t.nanos - 1000000000 + part)
  else ofParts? t.seconds (t.nanos + part).toNat

end Instant

end RuleBook
