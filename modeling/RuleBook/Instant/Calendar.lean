/-!
# The proleptic Gregorian calendar

Days are counted from 1970-01-01.  Years may be zero or negative; year zero is a
leap year.
-/

namespace RuleBook

structure CalendarDate where
  year : Int
  month : Nat
  day : Nat
  deriving Repr, DecidableEq

namespace CalendarDate

def isLeapYear (year : Int) : Bool :=
  year % 4 == 0 && (year % 100 != 0 || year % 400 == 0)

def monthLengths (year : Int) : List Nat :=
  [31, if isLeapYear year then 29 else 28, 31, 30, 31, 30, 31, 31, 30, 31, 30, 31]

def leapDaysBefore (year : Int) : Int :=
  (year - 1) / 4 - (year - 1) / 100 + (year - 1) / 400

def firstDay (year : Int) : Int :=
  365 * (year - 1970) + leapDaysBefore year - leapDaysBefore 1970

def daysBeforeMonth (year : Int) (month : Nat) : Nat :=
  ((monthLengths year).take (month - 1)).foldl (· + ·) 0

def ofYearMonthDay? (year : Int) (month day : Nat) : Option CalendarDate :=
  if month = 0 ∨ day = 0 then none
  else
    match (monthLengths year)[month - 1]? with
    | some length => if day ≤ length then some ⟨year, month, day⟩ else none
    | none => none

def toDays (date : CalendarDate) : Int :=
  firstDay date.year + daysBeforeMonth date.year date.month + date.day - 1

def yearOfDay (days : Int) : Int :=
  let estimate := days * 400 / 146097 + 1970
  if days < firstDay estimate then estimate - 1
  else if firstDay (estimate + 1) ≤ days then estimate + 1
  else estimate

def walkMonths : List Nat → Nat → Nat → Nat × Nat
  | [], month, offset => (month, offset + 1)
  | length :: lengths, month, offset =>
      if offset < length then (month, offset + 1)
      else walkMonths lengths (month + 1) (offset - length)

def ofDays (days : Int) : CalendarDate :=
  let year := yearOfDay days
  let (month, day) := walkMonths (monthLengths year) 1 (days - firstDay year).toNat
  ⟨year, month, day⟩

end CalendarDate

end RuleBook
