/-!
# Lines of bytes

Bytes are cut behind every line feed.  A line is the text of its bytes without the line feed
and a carriage return before it; bytes that are not UTF-8 have no text.
-/

namespace RuleBook.Text

/-- A line as it was read; none when its bytes are no text, or reading them failed. -/
abbrev Line := Option String

def lineFeed : UInt8 := 10

def splitLines : List UInt8 → List (List UInt8)
  | [] => []
  | byte :: bytes =>
      if byte = lineFeed then [byte] :: splitLines bytes
      else
        match splitLines bytes with
        | [] => [[byte]]
        | line :: lines => (byte :: line) :: lines

def dropLineEnd (line : List Char) : List Char :=
  match line.reverse with
  | '\n' :: '\r' :: rest => rest.reverse
  | '\n' :: rest => rest.reverse
  | _ => line

def readLine (bytes : List UInt8) : Line :=
  (String.fromUTF8? ⟨bytes.toArray⟩).map fun line => String.ofList (dropLineEnd line.toList)

def readLines (bytes : List UInt8) : List Line := (splitLines bytes).map readLine

end RuleBook.Text
