import RuleBook.Instant.Basic
import RuleBook.Text.Blank

/-!
# Texts of instants

Instants are written as RFC 3339 timestamps in UTC, with as many fraction digits in
groups of three as the nanoseconds need.  A midnight may be written as its date
alone.  Reading takes a calendar date or a timestamp with any offset.
-/

namespace RuleBook.Instant

def padded (width n : Nat) : List Char :=
  let digits := Nat.toDigits 10 n
  List.replicate (width - digits.length) '0' ++ digits

def yearText (year : Int) : List Char :=
  if 0 ≤ year ∧ year ≤ 9999 then padded 4 year.toNat
  else (if year < 0 then '-' else '+') :: padded 4 year.natAbs

def dateText (date : CalendarDate) : List Char :=
  yearText date.year ++ '-' :: padded 2 date.month ++ '-' :: padded 2 date.day

/-- Nothing, three, six or nine digits, the fewest that lose nothing. -/
def fractionText (nanos : Nat) : List Char :=
  if nanos = 0 then []
  else if nanos % 1000000 = 0 then '.' :: padded 3 (nanos / 1000000)
  else if nanos % 1000 = 0 then '.' :: padded 6 (nanos / 1000)
  else '.' :: padded 9 nanos

def timestampText (t : Instant) : List Char :=
  let leap := 1000000000 ≤ t.nanos
  let second := t.secondOfDay % 60 + if leap then 1 else 0
  let nanos := if leap then t.nanos - 1000000000 else t.nanos
  dateText t.date ++ 'T' :: padded 2 (t.secondOfDay / 3600) ++
    ':' :: padded 2 (t.secondOfDay / 60 % 60) ++ ':' :: padded 2 second ++
    fractionText nanos ++ ['Z']

/-- The date alone at midnight, the timestamp otherwise. -/
def shortText (t : Instant) : List Char :=
  if t.isMidnight then dateText t.date else t.timestampText

def takeNumber? (least : Nat) (greatest : Option Nat) (text : List Char) :
    Option (Nat × List Char) :=
  let digits := text.takeWhile Char.isDigit
  let digits := match greatest with
    | some count => digits.take count
    | none => digits
  if digits.length < least then none
  else some (Nat.ofDigitChars 10 digits 0, text.drop digits.length)

def takeChar? (c : Char) : List Char → Option (List Char)
  | [] => none
  | first :: rest => if first = c then some rest else none

def takeYear? : List Char → Option (Int × List Char)
  | '-' :: text => (takeNumber? 1 none text).map fun (n, rest) => (-(n : Int), rest)
  | '+' :: text => (takeNumber? 1 none text).map fun (n, rest) => ((n : Int), rest)
  | text => (takeNumber? 1 (some 4) text).map fun (n, rest) => ((n : Int), rest)

def readDate? (text : List Char) : Option Instant := do
  let (year, text) ← takeYear? (Text.trimStart text)
  let text ← takeChar? '-' text
  let (month, text) ← takeNumber? 1 (some 2) (Text.trimStart text)
  let text ← takeChar? '-' text
  let (day, text) ← takeNumber? 1 (some 2) (Text.trimStart text)
  if text = [] then ofDate? (← CalendarDate.ofYearMonthDay? year month day) else none

def takeFraction? : List Char → Option (Nat × List Char)
  | '.' :: text =>
      let digits := text.takeWhile Char.isDigit
      if digits = [] then none
      else
        let kept := digits.take 9
        some (Nat.ofDigitChars 10 kept 0 * Nat.pow 10 (9 - kept.length), text.drop digits.length)
  | text => some (0, text)

def takeOffset? : List Char → Option (Int × List Char)
  | [] => none
  | sign :: text =>
      if sign = 'Z' ∨ sign = 'z' then some (0, text)
      else if sign = '+' ∨ sign = '-' ∨ sign = '\u2212' then do
        let (hours, text) ← takeNumber? 2 (some 2) text
        let text ← takeChar? ':' text
        let (minutes, text) ← takeNumber? 2 (some 2) text
        if hours ≤ 23 ∧ minutes ≤ 59 then
          let offset : Int := hours * 3600 + minutes * 60
          some (if sign = '+' then offset else -offset, text)
        else none
      else none

/-- What follows the year of a timestamp: the rest of the date and a time of day joined
by `T`, `t` or a space, with an offset. -/
def readAfterYear? (year : Int) (text : List Char) : Option Instant := do
  let text ← takeChar? '-' text
  let (month, text) ← takeNumber? 2 (some 2) text
  let text ← takeChar? '-' text
  let (day, text) ← takeNumber? 2 (some 2) text
  let (joint, text) ← text.head?.map fun joint => (joint, text.tail)
  if joint ≠ 'T' ∧ joint ≠ 't' ∧ joint ≠ ' ' then none
  let (hour, text) ← takeNumber? 2 (some 2) text
  let text ← takeChar? ':' text
  let (minute, text) ← takeNumber? 2 (some 2) text
  let text ← takeChar? ':' text
  let (second, text) ← takeNumber? 2 (some 2) text
  let (nanos, text) ← takeFraction? text
  let (offset, text) ← takeOffset? text
  let date ← CalendarDate.ofYearMonthDay? year month day
  if text = [] ∧ hour ≤ 23 ∧ minute ≤ 59 ∧ second ≤ 60 then
    let minutes := date.toDays * 1440 + hour * 60 + minute
    if second = 60 then ofParts? (minutes * 60 + 59 - offset) (nanos + 1000000000)
    else ofParts? (minutes * 60 + second - offset) nanos
  else none

def readTimestamp? (text : List Char) : Option Instant := do
  let (year, text) ← takeNumber? 4 (some 4) text
  readAfterYear? year text

def ofTimestamp? : List Char → Option Instant
  | '-' :: text => do
      let (year, text) ← takeNumber? 4 none text
      readAfterYear? (-(year : Int)) text
  | '+' :: text => do
      let (year, text) ← takeNumber? 4 none text
      readAfterYear? year text
  | text => readTimestamp? text

/-- A text of ten bytes is a date, any other a timestamp. -/
def ofText? (text : List Char) : Option Instant :=
  if (String.ofList text).utf8ByteSize = 10 then readDate? text else readTimestamp? text

end RuleBook.Instant
