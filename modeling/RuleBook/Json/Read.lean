import RuleBook.Json.Basic
import RuleBook.Number.Decimal
import RuleBook.Text.Hex

/-!
# Reading JSON

A strict reader: no comments, no trailing commas, no control characters in strings, no
lone halves of surrogate pairs, no numbers beyond the doubles, and at most 127 levels
of nesting.
-/

namespace RuleBook.Json

def isJsonBlank (c : Char) : Bool := c == ' ' || c == '\n' || c == '\t' || c == '\r'

def skipBlanks (text : List Char) : List Char := text.dropWhile isJsonBlank

def takeUnit? : List Char → Option (Nat × List Char)
  | a :: b :: c :: d :: text => (Text.hexNumber? [a, b, c, d]).map (·, text)
  | _ => none

def simpleEscape? : Char → Option Char
  | '"' => some '"'
  | '\\' => some '\\'
  | '/' => some '/'
  | 'b' => some '\x08'
  | 'f' => some '\x0c'
  | 'n' => some '\n'
  | 'r' => some '\r'
  | 't' => some '\t'
  | _ => none

def scalarOf? (n : Nat) : Option Char :=
  if h : n.isValidChar then some (Char.ofNatAux n h) else none

/-- What follows a backslash; a high unit needs the escape of a low unit after it. -/
def takeEscape? : List Char → Option (Char × List Char)
  | 'u' :: text => do
      let (unit, text) ← takeUnit? text
      if 0xd800 ≤ unit ∧ unit < 0xdc00 then
        match text with
        | '\\' :: 'u' :: text => do
            let (low, text) ← takeUnit? text
            if 0xdc00 ≤ low ∧ low < 0xe000 then
              let char ← scalarOf? (0x10000 + (unit - 0xd800) * 0x400 + (low - 0xdc00))
              some (char, text)
            else none
        | _ => none
      else some (← scalarOf? unit, text)
  | c :: text => (simpleEscape? c).map (·, text)
  | [] => none

def takeStringFrom? : Nat → List Char → Option (List Char × List Char)
  | 0, _ => none
  | _ + 1, [] => none
  | fuel + 1, c :: text =>
      if c = '"' then some ([], text)
      else if c.toNat < 0x20 then none
      else do
        let (char, text) ← if c = '\\' then takeEscape? text else some (c, text)
        let (inside, text) ← takeStringFrom? fuel text
        some (char :: inside, text)

def takeString? : List Char → Option (String × List Char)
  | '"' :: text =>
      (takeStringFrom? (text.length + 1) text).map fun (s, rest) => (String.ofList s, rest)
  | _ => none

structure NumberText where
  negative : Bool
  whole : List Char
  fraction : List Char
  exponent : Int
  deriving Repr, DecidableEq

def takeWhole? : List Char → Option (List Char × List Char)
  | '0' :: text => if text.head?.any Char.isDigit then none else some (['0'], text)
  | text =>
      match text.span Char.isDigit with
      | ([], _) => none
      | (digits, rest) => some (digits, rest)

def takeFraction? : List Char → Option (List Char × List Char)
  | '.' :: text =>
      match text.span Char.isDigit with
      | ([], _) => none
      | (digits, rest) => some (digits, rest)
  | text => some ([], text)

def takeExponent? : List Char → Option (Int × List Char)
  | [] => some (0, [])
  | c :: text =>
      if c = 'e' ∨ c = 'E' then
        let (negative, text) := Decimal.takeSign text
        match text.span Char.isDigit with
        | ([], _) => none
        | (digits, rest) =>
            let magnitude : Int := Nat.ofDigitChars 10 digits 0
            some (if negative then -magnitude else magnitude, rest)
      else some (0, c :: text)

def takeNumberText? (text : List Char) : Option (NumberText × List Char) := do
  let (negative, text) := match text with
    | '-' :: text => (true, text)
    | text => (false, text)
  let (whole, text) ← takeWhole? text
  let (fraction, text) ← takeFraction? text
  let (exponent, text) ← takeExponent? text
  some (⟨negative, whole, fraction, exponent⟩, text)

def maxSignificand : Nat := Nat.pow 2 64 - 1

def appendDigits : Nat → List Char → Nat × Nat
  | significand, [] => (significand, 0)
  | significand, c :: digits =>
      let next := 10 * significand + (c.toNat - '0'.toNat)
      if next ≤ maxSignificand then appendDigits next digits
      else (significand, (c :: digits).length)

def powerOfTen (exponent : Nat) : Float := Number.nearest false (Nat.pow 10 exponent) 1

def scale? : Nat → Float → Int → Option Float
  | 0, x, _ => some x
  | steps + 1, x, exponent =>
      if 0 ≤ exponent then
        if Number.magnitudeBits x = 0 then some x
        else if 308 < exponent then none
        else
          let scaled := x * powerOfTen exponent.toNat
          if Number.isFinite scaled then some scaled else none
      else if -308 ≤ exponent then some (x / powerOfTen (-exponent).toNat)
      else scale? steps (x / powerOfTen 308) (exponent + 308)

/-- The double of a number text.  The first digits that fit in 64 bits are scaled by a
power of ten, so the last place is not always the nearest one.  Three steps bring any
such number to zero. -/
def NumberText.toFloat? (n : NumberText) : Option Float :=
  let (whole, dropped) := appendDigits 0 n.whole
  let (significand, ignored) := appendDigits whole n.fraction
  let places : Int := (dropped : Int) - (n.fraction.length - ignored : Nat)
  (scale? 4 (Number.ofInt significand) (n.exponent + places)).map fun x =>
    if n.negative then -x else x

def maxDepth : Nat := 127

def takeWord? (word : String) (value : Json) (text : List Char) :
    Option (Json × List Char) :=
  if word.toList.isPrefixOf text then some (value, text.drop word.length) else none

mutual

def takeValue? : Nat → Nat → List Char → Option (Json × List Char)
  | 0, _, _ => none
  | fuel + 1, levels, text =>
      match text with
      | [] => none
      | '"' :: _ => (takeString? text).map fun (s, rest) => (.string s, rest)
      | '[' :: rest =>
          if levels = 0 then none
          else
            match skipBlanks rest with
            | ']' :: rest => some (.array [], rest)
            | rest =>
                (takeItems? fuel (levels - 1) rest).map fun (items, rest) =>
                  (.array items, rest)
      | '\x7b' :: rest =>
          if levels = 0 then none
          else
            match skipBlanks rest with
            | '\x7d' :: rest => some (.object [], rest)
            | rest =>
                (takeMembers? fuel (levels - 1) rest).map fun (members, rest) =>
                  (.object (sortMembers members), rest)
      | 'n' :: _ => takeWord? "null" .null text
      | 't' :: _ => takeWord? "true" (.bool true) text
      | 'f' :: _ => takeWord? "false" (.bool false) text
      | _ => do
          let (n, rest) ← takeNumberText? text
          some (.number (← n.toFloat?), rest)

def takeItems? : Nat → Nat → List Char → Option (List Json × List Char)
  | 0, _, _ => none
  | fuel + 1, levels, text => do
      let (item, rest) ← takeValue? fuel levels text
      match skipBlanks rest with
      | ']' :: rest => some ([item], rest)
      | ',' :: rest =>
          let (items, rest) ← takeItems? fuel levels (skipBlanks rest)
          some (item :: items, rest)
      | _ => none

def takeMembers? : Nat → Nat → List Char → Option (List (String × Json) × List Char)
  | 0, _, _ => none
  | fuel + 1, levels, text => do
      let (key, rest) ← takeString? text
      match skipBlanks rest with
      | ':' :: rest =>
          let (value, rest) ← takeValue? fuel levels (skipBlanks rest)
          match skipBlanks rest with
          | '\x7d' :: rest => some ([(key, value)], rest)
          | ',' :: rest =>
              let (members, rest) ← takeMembers? fuel levels (skipBlanks rest)
              some ((key, value) :: members, rest)
          | _ => none
      | _ => none

end

def parse? (text : List Char) : Option Json := do
  let (value, rest) ← takeValue? (2 * text.length + 2) maxDepth (skipBlanks text)
  if skipBlanks rest = [] then some value else none

end RuleBook.Json
