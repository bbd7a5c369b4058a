/-!
# Regular expressions over positions

An expression consumes characters and looks at positions.  To search a text, each
step is replaced by the positions whose next character it takes, and each look by
the positions where it holds; the expression is then swept over a set of starting
positions and yields the set of positions where a match may end.  Sets of positions
are numbers, bit `i` for position `i`, so that one sweep follows all starts at once
and never goes back.
-/

namespace RuleBook.Regex

inductive Expr (σ τ : Type) where
  | empty
  | step (taken : σ)
  | look (asked : τ)
  | cat (first second : Expr σ τ)
  | alt (left right : Expr σ τ)
  | rep (body : Expr σ τ) (least : Nat) (greatest : Option Nat)
  deriving Repr, DecidableEq

namespace Expr

variable {σ τ : Type}

def catAll : List (Expr σ τ) → Expr σ τ
  | [] => .empty
  | [e] => e
  | e :: es => .cat e (catAll es)

def altAll (first : Expr σ τ) : List (Expr σ τ) → Expr σ τ
  | [] => first
  | next :: rest => .alt first (altAll next rest)

def map {σ' τ' : Type} (f : σ → σ') (g : τ → τ') : Expr σ τ → Expr σ' τ'
  | .empty => .empty
  | .step taken => .step (f taken)
  | .look asked => .look (g asked)
  | .cat first second => .cat (first.map f g) (second.map f g)
  | .alt left right => .alt (left.map f g) (right.map f g)
  | .rep body least greatest => .rep (body.map f g) least greatest

def repeatSweep (sweep : Nat → Nat) : Nat → Nat → Nat
  | 0, positions => positions
  | count + 1, positions =>
      let next := sweep positions
      if next = positions then positions else repeatSweep sweep count next

def closeSweep (sweep : Nat → Nat) : Nat → Nat → Nat → Nat
  | 0, reached, _ => reached
  | rounds + 1, reached, fresh =>
      let all := reached ||| sweep fresh
      if all = reached then reached else closeSweep sweep rounds all (all ^^^ reached)

/-- The positions where a match that starts at one of the positions may end, in a text
of `length` characters.  Beyond `length` rounds a repetition reaches nothing new. -/
def sweep (length : Nat) : Expr Nat Nat → Nat → Nat
  | .empty, positions => positions
  | .step taken, positions => (positions &&& taken) <<< 1
  | .look asked, positions => positions &&& asked
  | .cat first second, positions => second.sweep length (first.sweep length positions)
  | .alt left right, positions => left.sweep length positions ||| right.sweep length positions
  | .rep body least greatest, positions =>
      let start := repeatSweep (body.sweep length) least positions
      let rounds := match greatest with
        | some count => min (count - least) (length + 1)
        | none => length + 1
      closeSweep (body.sweep length) rounds start start

end Expr

def stepPositions (test : Char → Bool) : List Char → Nat
  | [] => 0
  | c :: text => (if test c then 1 else 0) + 2 * stepPositions test text

def lookPositions (test : Option Char → Option Char → Bool) (before : Option Char) :
    List Char → Nat
  | [] => if test before none then 1 else 0
  | c :: text =>
      (if test before (some c) then 1 else 0) + 2 * lookPositions test (some c) text

def Expr.isFoundIn (e : Expr (Char → Bool) (Option Char → Option Char → Bool))
    (text : List Char) : Bool :=
  let positions := e.map (stepPositions · text) (lookPositions · none text)
  positions.sweep text.length (Nat.pow 2 (text.length + 1) - 1) != 0

end RuleBook.Regex
