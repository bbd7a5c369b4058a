import RuleBook.CharSet

/-!
# Characters as bytes

UTF-8 writes a character in one to four bytes.  A range of characters is cut into
pieces whose members are the texts that take one byte from each of a few ranges.
-/

namespace RuleBook.Regex

def utf8Bytes (c : Nat) : List Nat :=
  if c < 0x80 then [c]
  else if c < 0x800 then [0xc0 + c / 64, 0x80 + c % 64]
  else if c < 0x10000 then [0xe0 + c / 4096, 0x80 + c / 64 % 64, 0x80 + c % 64]
  else [0xf0 + c / 262144, 0x80 + c / 4096 % 64, 0x80 + c / 64 % 64, 0x80 + c % 64]

abbrev ByteRanges := List (Nat × Nat)

def cutBehind (bound : Nat) : Nat × Nat → List (Nat × Nat)
  | (first, last) =>
      if first ≤ bound ∧ bound < last then [(first, bound), (bound + 1, last)]
      else [(first, last)]

def cutByLength (range : Nat × Nat) : List (Nat × Nat) :=
  ((cutBehind 0x7f range).flatMap (cutBehind 0x7ff)).flatMap (cutBehind 0xffff)

def cutAtBlocks : List Nat → Nat → Nat → List (Nat × Nat)
  | [], first, last => [(first, last)]
  | block :: blocks, first, last =>
      let start := if first % block = 0 then first else (first / block + 1) * block
      let stop := if last % block = block - 1 then last else last / block * block - 1
      if first / block = last / block then [(first, last)]
      else
        let head := if start = first then [] else [(first, start - 1)]
        if start / block = last / block then head ++ [(start, last)]
        else
          let tail := if stop = last then [] else [(stop + 1, last)]
          head ++ cutAtBlocks blocks start stop ++ tail

def blockSizes : List Nat := [64, 4096, 262144]

def byteRangesOf (range : Nat × Nat) : List ByteRanges :=
  (cutByLength range).flatMap fun (first, last) =>
    let pieces := if last < 0x80 then [(first, last)] else cutAtBlocks blockSizes first last
    pieces.map fun (first, last) => (utf8Bytes first).zip (utf8Bytes last)

end RuleBook.Regex
