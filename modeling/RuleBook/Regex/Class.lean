import RuleBook.Regex.Flags
import RuleBook.Unicode.CaseFolding
import RuleBook.Unicode.Names

/-!
# Classes

The sets of characters that atoms and bracketed classes stand for under flags.
-/

namespace RuleBook.Regex

def asciiSpace : CharSet := ⟨[(0x09, 0x0d), (0x20, 0x20)]⟩

def asciiDigit : CharSet := .range 0x30 0x39

def asciiLetters : CharSet := ⟨[(0x41, 0x5a), (0x61, 0x7a)]⟩

def closeUnderAsciiCase (set : CharSet) : CharSet :=
  let other (c : Nat) : Nat := if c < 0x61 then c + 0x20 else c - 0x20
  let letters := ((List.range 26).map (0x41 + ·)) ++ ((List.range 26).map (0x61 + ·))
  let added := (letters.filter set.contains).map fun c => (other c, other c)
  set.union (.ofRanges added)

namespace Flags

def closeCase (flags : Flags) (set : CharSet) : CharSet :=
  if !flags.ignoreCase then set
  else if flags.unicode then Unicode.closeUnderCase set
  else closeUnderAsciiCase set

def negate? (flags : Flags) (negated : Bool) (set : CharSet) : Option CharSet :=
  if flags.unicode then some (if negated then set.complement else set)
  else
    let set := if negated then set.complementUpTo 0xff else set
    if set.within 0x7f then some set else none

def closeAndNegate? (flags : Flags) (negated : Bool) (set : CharSet) : Option CharSet :=
  flags.negate? negated (flags.closeCase set)

def kindSet (flags : Flags) : ClassKind → CharSet
  | .digit => if flags.unicode then Unicode.decimalDigits else asciiDigit
  | .space => if flags.unicode then Unicode.whiteSpace else asciiSpace
  | .word => wordSet flags.unicode

def propertySet? (flags : Flags) (query : PropertyQuery) (negated : Bool) :
    Option CharSet := do
  if flags.unicode then
    let set ← match query with
      | .named name => Unicode.classNamed? name
      | .valued name value => Unicode.classValued? name value
    flags.closeAndNegate? negated set
  else none

def allowsChar (flags : Flags) (c : Char) (mayBeByte : Bool) : Bool :=
  flags.unicode || !mayBeByte || c.toNat < 0x80

def memberCode? (flags : Flags) (c : Char) : Option Nat :=
  if flags.unicode || c.toNat < 0x80 then some c.toNat else none

def dotSet? (flags : Flags) : Option CharSet :=
  if !flags.unicode then none
  else if flags.dotAll then some CharSet.empty.complement
  else if flags.crlf then some (CharSet.complement ⟨[(0x0a, 0x0a), (0x0d, 0x0d)]⟩)
  else some (CharSet.single 0x0a).complement

end Flags

def asciiClass? (name : List Char) : Option CharSet :=
  match String.ofList name with
  | "alnum" => some ⟨[(0x30, 0x39), (0x41, 0x5a), (0x61, 0x7a)]⟩
  | "alpha" => some asciiLetters
  | "ascii" => some (.range 0 0x7f)
  | "blank" => some ⟨[(0x09, 0x09), (0x20, 0x20)]⟩
  | "cntrl" => some ⟨[(0, 0x1f), (0x7f, 0x7f)]⟩
  | "digit" => some asciiDigit
  | "graph" => some (.range 0x21 0x7e)
  | "lower" => some (.range 0x61 0x7a)
  | "print" => some (.range 0x20 0x7e)
  | "punct" => some ⟨[(0x21, 0x2f), (0x3a, 0x40), (0x5b, 0x60), (0x7b, 0x7e)]⟩
  | "space" => some asciiSpace
  | "upper" => some (.range 0x41 0x5a)
  | "word" => some asciiWord
  | "xdigit" => some ⟨[(0x30, 0x39), (0x41, 0x46), (0x61, 0x66)]⟩
  | _ => none

def SetOperator.apply : SetOperator → CharSet → CharSet → CharSet
  | .intersection => CharSet.intersection
  | .difference => CharSet.difference
  | .toggle => CharSet.toggle

mutual

/-- The set a class describes.  Case is closed over before anything is negated or
combined. -/
def SetTree.toSet? (flags : Flags) : SetTree → Option CharSet
  | .empty => some .empty
  | .atom (.char c _) => (flags.memberCode? c).map .single
  | .atom (.kind k negated) => flags.negate? negated (flags.kindSet k)
  | .atom (.property query negated) => flags.propertySet? query negated
  | .atom .dot => none
  | .atom (.assertion _) => none
  | .range first _ last _ => do
      some (.range (← flags.memberCode? first) (← flags.memberCode? last))
  | .named name negated => (asciiClass? name).bind (flags.closeAndNegate? negated)
  | .bracket negated inside => (inside.toSet? flags).bind (flags.closeAndNegate? negated)
  | .union items => unionOfSets? flags items
  | .combine operator left right => do
      some (operator.apply (flags.closeCase (← left.toSet? flags))
        (flags.closeCase (← right.toSet? flags)))

def unionOfSets? (flags : Flags) : List SetTree → Option CharSet
  | [] => some .empty
  | item :: items => do some ((← item.toSet? flags).union (← unionOfSets? flags items))

end

end RuleBook.Regex
