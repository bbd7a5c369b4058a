import RuleBook.Text.Hex

/-!
# Escapes in quoted strings

Between quotes a backslash starts an escape only where one of the known letters
follows; any other backslash stands for itself.  Characters beyond the basic plane
may be written as two UTF-16 units.
-/

namespace RuleBook.Notation

/-- A unit of four characters: hexadecimal digits, of which the first may be a plus
sign instead. -/
def unit? (digits : List Char) : Option Nat :=
  match digits with
  | '+' :: digits => Text.hexNumber? digits
  | digits => Text.hexNumber? digits

def replacementChar : Char := '\ufffd'

/-- The character of a code point; a lone half of a pair becomes the replacement
character. -/
def charOfUnit (unit : Nat) : Char :=
  if h : unit.isValidChar then Char.ofNatAux unit h else replacementChar

def isHighUnit (unit : Nat) : Bool := 0xd800 ≤ unit && unit < 0xdc00

def isLowUnit (unit : Nat) : Bool := 0xdc00 ≤ unit && unit < 0xe000

def lowUnit? : List Char → Option Nat
  | '\\' :: 'u' :: a :: b :: c :: d :: _ => (unit? [a, b, c, d]).filter isLowUnit
  | _ => none

def joinUnits (high low : Nat) : Nat := 0x10000 + (high - 0xd800) * 0x400 + (low - 0xdc00)

def escape? : List Char → Option (Char × Nat)
  | '"' :: _ => some ('"', 1)
  | '\'' :: _ => some ('\'', 1)
  | '\\' :: _ => some ('\\', 1)
  | '/' :: _ => some ('/', 1)
  | 'n' :: _ => some ('\n', 1)
  | 'r' :: _ => some ('\r', 1)
  | 't' :: _ => some ('\t', 1)
  | 'u' :: a :: b :: c :: d :: rest =>
      (unit? [a, b, c, d]).map fun unit =>
        match if isHighUnit unit then lowUnit? rest else none with
        | some low => (charOfUnit (joinUnits unit low), 11)
        | none => (charOfUnit unit, 5)
  | _ => none

/-- Decodes from left to right, passing over characters that an escape has taken. -/
def unescapeFrom : Nat → List Char → List Char
  | _, [] => []
  | taken + 1, _ :: text => unescapeFrom taken text
  | 0, c :: text =>
      if c = '\\' then
        match escape? text with
        | some (char, taken) => char :: unescapeFrom taken text
        | none => '\\' :: unescapeFrom 0 text
      else c :: unescapeFrom 0 text

def unescape (text : List Char) : List Char := unescapeFrom 0 text

/-- Control characters and line separators are written as units, so that nothing
quoted spans lines. -/
def escapeChar (c : Char) : List Char :=
  if c = '"' then ['\\', '"']
  else if c = '\\' then ['\\', '\\']
  else if c = '\n' then ['\\', 'n']
  else if c = '\r' then ['\\', 'r']
  else if c = '\t' then ['\\', 't']
  else if c.toNat < 0x20 ∨ c = '\u2028' ∨ c = '\u2029' then
    '\\' :: 'u' :: Text.hexText 4 c.toNat
  else [c]

def quote (text : List Char) : List Char := '"' :: text.flatMap escapeChar ++ ['"']

end RuleBook.Notation
