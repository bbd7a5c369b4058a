/-!
# Syntax trees of patterns

What a pattern says before flags are applied and names of classes are looked up.
-/

namespace RuleBook.Regex

inductive Flag where
  | ignoreCase
  | multiLine
  | dotAll
  | swapGreed
  | unicode
  | crlf
  | extended
  deriving Repr, DecidableEq

abbrev FlagChange := Flag × Bool

inductive WordLook where
  | boundary
  | noBoundary
  | start
  | finish
  | startHalf
  | finishHalf
  deriving Repr, DecidableEq

inductive Assertion where
  | lineStart
  | lineEnd
  | textStart
  | textEnd
  | word (look : WordLook)
  deriving Repr, DecidableEq

inductive ClassKind where
  | digit
  | space
  | word
  deriving Repr, DecidableEq

inductive PropertyQuery where
  | named (name : List Char)
  | valued (name value : List Char)
  deriving Repr, DecidableEq

inductive Atom where
  /-- A character; two-digit hexadecimal escapes may also stand for a byte. -/
  | char (c : Char) (mayBeByte : Bool)
  | dot
  | assertion (a : Assertion)
  | kind (k : ClassKind) (negated : Bool)
  | property (query : PropertyQuery) (negated : Bool)
  deriving Repr, DecidableEq

inductive SetOperator where
  | intersection
  | difference
  | toggle
  deriving Repr, DecidableEq

inductive SetTree where
  | empty
  | atom (a : Atom)
  | range (first : Char) (firstMayBeByte : Bool) (last : Char) (lastMayBeByte : Bool)
  | named (name : List Char) (negated : Bool)
  | bracket (negated : Bool) (inside : SetTree)
  | union (items : List SetTree)
  | combine (operator : SetOperator) (left right : SetTree)
  deriving Repr

inductive Tree where
  | empty
  | atom (a : Atom)
  | bracket (negated : Bool) (inside : SetTree)
  | flags (changes : List FlagChange)
  | group (changes : List FlagChange) (body : Tree)
  | capture (body : Tree)
  | repetition (body : Tree) (least : Nat) (greatest : Option Nat) (isLazy : Bool)
  | concat (items : List Tree)
  | alternation (branches : List Tree)
  deriving Repr

mutual

def SetTree.depth : SetTree → Nat
  | .bracket _ inside => inside.depth + 1
  | .union items => depthOfSets items + 1
  | .combine _ left right => max left.depth right.depth + 1
  | _ => 0

def depthOfSets : List SetTree → Nat
  | [] => 0
  | item :: items => max item.depth (depthOfSets items)

end

mutual

def Tree.depth : Tree → Nat
  | .bracket _ inside => inside.depth + 1
  | .group _ body => body.depth + 1
  | .capture body => body.depth + 1
  | .repetition body _ _ _ => body.depth + 1
  | .concat items => depthOfTrees items + 1
  | .alternation branches => depthOfTrees branches + 1
  | _ => 0

def depthOfTrees : List Tree → Nat
  | [] => 0
  | tree :: trees => max tree.depth (depthOfTrees trees)

end

end RuleBook.Regex
