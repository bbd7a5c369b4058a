import RuleBook.Instant.Text
import RuleBook.Json.Read
import RuleBook.Text.Separator
import RuleBook.Toml.Basic

/-!
# Reading TOML

A document is a sequence of lines with a pair, a header or nothing, and a comment.
-/

namespace RuleBook.Toml

def isSpace (c : Char) : Bool := c == ' ' || c == '\t'

def skipSpaces (text : List Char) : List Char := text.dropWhile isSpace

def isControl (c : Char) : Bool := (c.toNat < 0x20 && c != '\t') || c == '\x7f'

def takeBreak? : List Char → Option (List Char)
  | '\n' :: text => some text
  | '\r' :: '\n' :: text => some text
  | _ => none

def skipComment : List Char → List Char
  | '#' :: text => text.dropWhile fun c => !isControl c
  | text => text

def takeLineEnd? (text : List Char) : Option (List Char) :=
  match skipComment (skipSpaces text) with
  | [] => some []
  | rest => takeBreak? rest

def skipLines : Nat → List Char → List Char
  | 0, text => text
  | fuel + 1, text =>
      let rest := skipComment (skipSpaces text)
      match takeBreak? rest with
      | some rest => skipLines fuel rest
      | none => rest

def skipGap (text : List Char) : List Char := skipLines (text.length + 1) text

def takeCodePoint? (count : Nat) (text : List Char) : Option (Char × List Char) := do
  let digits := text.take count
  if digits.length = count then
    let char ← Json.scalarOf? (← Text.hexNumber? digits)
    some (char, text.drop count)
  else none

def takeEscape? : List Char → Option (Char × List Char)
  | 'b' :: text => some ('\x08', text)
  | 't' :: text => some ('\t', text)
  | 'n' :: text => some ('\n', text)
  | 'f' :: text => some ('\x0c', text)
  | 'r' :: text => some ('\r', text)
  | 'e' :: text => some ('\x1b', text)
  | '"' :: text => some ('"', text)
  | '\\' :: text => some ('\\', text)
  | 'x' :: text => takeCodePoint? 2 text
  | 'u' :: text => takeCodePoint? 4 text
  | 'U' :: text => takeCodePoint? 8 text
  | _ => none

def takeInside? (quote : Char) : Nat → List Char → Option (List Char × List Char)
  | 0, _ => none
  | _ + 1, [] => none
  | fuel + 1, c :: text =>
      if c = quote then some ([], text)
      else if isControl c then none
      else do
        let (char, text) ← if c = '\\' ∧ quote = '"' then takeEscape? text else some (c, text)
        let (inside, text) ← takeInside? quote fuel text
        some (char :: inside, text)

def skipFold? (text : List Char) : Option (List Char) :=
  (takeBreak? (skipSpaces text)).map fun rest =>
    rest.dropWhile fun c => isSpace c || c == '\n' || c == '\r'

/-- The inside of a string on several lines, up to three quotes; one or two more quotes
before them belong to the string. -/
def takeLines? (quote : Char) : Nat → List Char → Option (List Char × List Char)
  | 0, _ => none
  | _ + 1, [] => none
  | fuel + 1, c :: text =>
      let quotes := (c :: text).takeWhile (· == quote)
      if c = quote ∧ 3 ≤ quotes.length then
        if 5 < quotes.length then none
        else some (quotes.drop 3, (c :: text).drop quotes.length)
      else if c = '\\' ∧ quote = '"' then
        match skipFold? text with
        | some rest => takeLines? quote fuel rest
        | none => do
            let (char, text) ← takeEscape? text
            let (inside, text) ← takeLines? quote fuel text
            some (char :: inside, text)
      else do
        let (char, text) ← match takeBreak? (c :: text) with
          | some rest => some ('\n', rest)
          | none => if isControl c then none else some (c, text)
        let (inside, text) ← takeLines? quote fuel text
        some (char :: inside, text)

/-- A string of any form; a line break right after three opening quotes is dropped. -/
def takeString? (text : List Char) : Option (String × List Char) := do
  let quote ← text.head?
  if quote ≠ '"' ∧ quote ≠ '\'' then none
  if text.take 3 = [quote, quote, quote] then
    let rest := text.drop 3
    let (inside, rest) ← takeLines? quote (rest.length + 1) ((takeBreak? rest).getD rest)
    some (String.ofList inside, rest)
  else
    let (inside, rest) ← takeInside? quote text.length text.tail
    some (String.ofList inside, rest)

def isBareKeyChar (c : Char) : Bool := c.isAlphanum || c == '_' || c == '-'

def takeSimpleKey? (text : List Char) : Option (String × List Char) :=
  match text with
  | [] => none
  | c :: _ =>
      if c = '"' ∨ c = '\'' then
        if text.take 3 = [c, c, c] then none else takeString? text
      else
        match text.span isBareKeyChar with
        | ([], _) => none
        | (key, rest) => some (String.ofList key, rest)

def takeKey? : Nat → List Char → Option (List String × List Char)
  | 0, _ => none
  | fuel + 1, text => do
      let (key, rest) ← takeSimpleKey? (skipSpaces text)
      match skipSpaces rest with
      | '.' :: rest =>
          let (keys, rest) ← takeKey? fuel rest
          some (key :: keys, rest)
      | rest => some ([key], rest)

def plainDigits? (isDigit : Char → Bool) (text : List Char) : Option (List Char) :=
  let groups := Text.splitOn ['_'] text
  if groups.all fun group => group ≠ [] && group.all isDigit then some groups.flatten else none

def radixNumber? (radix : Nat) (isDigit : Char → Bool) (text : List Char) : Option Nat :=
  (plainDigits? isDigit text).map fun digits => Nat.ofDigitChars radix digits 0

def boundedInteger? (n : Int) : Option Toml :=
  if Number.minInt64 ≤ n ∧ n < -Number.minInt64 then some (.integer n) else none

def hexadecimal? (text : List Char) : Option Nat := do
  let digits ← plainDigits? Text.isHexDigit text
  Text.hexNumber? digits

def integer? (text : List Char) : Option Toml :=
  match text with
  | '0' :: 'x' :: digits => (hexadecimal? digits).bind fun n => boundedInteger? n
  | '0' :: 'o' :: digits =>
      (radixNumber? 8 (fun c => '0' ≤ c ∧ c ≤ '7') digits).bind fun n => boundedInteger? n
  | '0' :: 'b' :: digits =>
      (radixNumber? 2 (fun c => c = '0' ∨ c = '1') digits).bind fun n => boundedInteger? n
  | _ => do
      let (negative, digits) := Decimal.takeSign text
      if digits.head? = some '0' ∧ 1 < digits.length then none
      let n ← radixNumber? 10 Char.isDigit digits
      boundedInteger? (if negative then -(n : Int) else n)

def isWholePart (text : List Char) : Bool :=
  (plainDigits? Char.isDigit text).isSome &&
    !(text.head? == some '0' && 1 < text.length)

def float? (text : List Char) : Option Toml :=
  let (_, unsigned) := Decimal.takeSign text
  if unsigned = "inf".toList ∨ unsigned = "nan".toList then (Number.ofText? text).map .float
  else
    let (whole, rest) := unsigned.span fun c => c.isDigit || c == '_'
    let (fraction?, rest) : Option (List Char) × List Char := match rest with
      | '.' :: rest =>
          let (digits, rest) := rest.span fun c => c.isDigit || c == '_'
          (some digits, rest)
      | rest => (none, rest)
    let exponent? : Option (List Char) := match rest with
      | [] => some []
      | 'e' :: digits => some (Decimal.takeSign digits).2
      | 'E' :: digits => some (Decimal.takeSign digits).2
      | _ => none
    let fits (part : List Char) : Bool := (plainDigits? Char.isDigit part).isSome
    match fraction?, exponent? with
    | none, some [] => none
    | _, none => none
    | _, some exponent =>
        if isWholePart whole && fraction?.all fits && (rest.isEmpty || fits exponent) then
          (Number.ofText? (text.filter (· != '_'))).map .float
        else none

def withSeconds (time : List Char) : List Char :=
  let (minutes, rest) := time.splitAt 5
  if minutes.length < 5 ∨ rest.head? = some ':' ∨ rest.head? = some '.' then time
  else minutes ++ ":00".toList ++ rest

def momentText (text : List Char) : List Char :=
  match text.splitAt 10 with
  | (date, _ :: time) =>
      if date.contains '-' then
        date ++ 'T' :: time.map fun c => if c = 'z' then 'Z' else c
      else text
  | (_, []) => text

def moment? (text : List Char) : Option Toml :=
  let (date, time) := text.splitAt 11
  let joined := date ++ withSeconds time
  let onDay := "2000-01-01T".toList ++ withSeconds text
  let atMidnight := text ++ "T00:00:00".toList
  let candidates := [joined, joined ++ ['Z'], atMidnight ++ ['Z'], onDay ++ ['Z']]
  if candidates.any fun candidate => (Instant.readTimestamp? candidate).isSome then
    some (.moment (String.ofList (momentText text)))
  else none

def isScalarChar (c : Char) : Bool :=
  c.isAlphanum || c == '_' || c == '-' || c == '+' || c == '.' || c == ':'

/-- A bare scalar; a space may join a date and a time. -/
def takeScalar? (text : List Char) : Option (Toml × List Char) :=
  let (word, rest) := text.span isScalarChar
  let joined : Option (Toml × List Char) := match rest with
    | ' ' :: after =>
        let (time, rest) := after.span isScalarChar
        if time = [] then none else (moment? (word ++ ' ' :: time)).map (·, rest)
    | _ => none
  match joined with
  | some taken => some taken
  | none =>
      let value? :=
        if word = "true".toList then some (.bool true)
        else if word = "false".toList then some (.bool false)
        else ((integer? word).or (float? word)).or (moment? word)
      value?.map (·, rest)

def maxDepth : Nat := 80

mutual

def takeValue? (depth : Nat) : Nat → List Char → Option (Toml × List Char)
  | 0, _ => none
  | fuel + 1, text =>
      match depth, text with
      | _, [] => none
      | 0, '[' :: _ => none
      | 0, '\x7b' :: _ => none
      | depth + 1, '[' :: rest => do
          let (items, rest) ← takeItems? depth fuel rest
          some (.array items, rest)
      | depth + 1, '\x7b' :: rest => do
          let (pairs, rest) ← takePairs? depth fuel rest
          some (← ofPairs? pairs, rest)
      | _, c :: _ =>
          if c = '"' ∨ c = '\'' then
            (takeString? text).map fun (s, rest) => (.string s, rest)
          else takeScalar? text
termination_by structural fuel => fuel

def takeItems? (depth : Nat) : Nat → List Char → Option (List Toml × List Char)
  | 0, _ => none
  | fuel + 1, text =>
      match skipGap text with
      | ']' :: rest => some ([], rest)
      | rest => do
          let (item, rest) ← takeValue? depth fuel rest
          match skipGap rest with
          | ']' :: rest => some ([item], rest)
          | ',' :: rest =>
              let (items, rest) ← takeItems? depth fuel rest
              some (item :: items, rest)
          | _ => none

def takePairs? (depth : Nat) : Nat → List Char →
    Option (List (List String × Toml) × List Char)
  | 0, _ => none
  | fuel + 1, text =>
      match skipGap text with
      | '\x7d' :: rest => some ([], rest)
      | rest => do
          let (path, value, rest) ← takePair? depth fuel skipGap rest
          match skipGap rest with
          | '\x7d' :: rest => some ([(path, value)], rest)
          | ',' :: rest =>
              let (pairs, rest) ← takePairs? depth fuel rest
              some ((path, value) :: pairs, rest)
          | _ => none

def takePair? (depth : Nat) : Nat → (List Char → List Char) → List Char →
    Option (List String × Toml × List Char)
  | 0, _, _ => none
  | fuel + 1, skip, text => do
      let (path, rest) ← takeKey? (text.length + 1) text
      match skip rest with
      | '=' :: rest =>
          let (value, rest) ← takeValue? depth fuel (skip rest)
          some (path, value, rest)
      | _ => none

end

def takeStatement? (text : List Char) : Option (Statement × List Char) :=
  match text with
  | '[' :: '[' :: rest => do
      let (path, rest) ← takeKey? (rest.length + 1) rest
      match rest with
      | ']' :: ']' :: rest => some (.arrayHeader path, rest)
      | _ => none
  | '[' :: rest => do
      let (path, rest) ← takeKey? (rest.length + 1) rest
      match rest with
      | ']' :: rest => some (.header path, rest)
      | _ => none
  | _ => do
      let (path, value, rest) ← takePair? maxDepth (2 * text.length + 2) skipSpaces text
      some (.pair path value, rest)

def takeStatements? : Nat → List Char → Option (List Statement)
  | 0, _ => none
  | fuel + 1, text =>
      match skipSpaces text with
      | [] => some []
      | rest =>
          match takeLineEnd? rest with
          | some rest => takeStatements? fuel rest
          | none => do
              let (statement, rest) ← takeStatement? rest
              let statements ← takeStatements? fuel (← takeLineEnd? rest)
              some (statement :: statements)

/-- Reads a document; a byte order mark before it is dropped. -/
def parse? (text : List Char) : Option Toml :=
  let text := match text with
    | '\ufeff' :: rest => rest
    | text => text
  (takeStatements? (text.length + 1) text).bind ofStatements?

end RuleBook.Toml
