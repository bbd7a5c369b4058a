/-!
# Readers with a trail

A reader takes a value off the front of a text or refuses it.  Beside the result it
keeps a trail: the farthest points at which a named rule was refused and at which one
was taken.  When a whole text is refused, the farthest refusal is where the error is
reported.  A rule that is taken where it must not stand counts as a refusal, so
`notAhead` exchanges the two.
-/

namespace RuleBook.Notation

/-- Points are given by how many characters are left. -/
structure Trail where
  refused : Option Nat
  taken : Option Nat
  deriving Repr, DecidableEq

namespace Trail

def empty : Trail := ⟨none, none⟩

def farther : Option Nat → Option Nat → Option Nat
  | none, b => b
  | some a, none => some a
  | some a, some b => some (min a b)

def join (s t : Trail) : Trail := ⟨farther s.refused t.refused, farther s.taken t.taken⟩

def exchange (t : Trail) : Trail := ⟨t.taken, t.refused⟩

end Trail

/-- What reading gave, if anything, and the rest of the text after it. -/
structure Reading (α : Type) where
  trail : Trail
  result : Option (α × List Char)

abbrev Reader (α : Type) := List Char → Reading α

namespace Reader

variable {α β : Type}

def done (a : α) : Reader α := fun text => ⟨.empty, some (a, text)⟩

def fail : Reader α := fun _ => ⟨.empty, none⟩

def bind (p : Reader α) (f : α → Reader β) : Reader β := fun text =>
  let first := p text
  match first.result with
  | some (a, rest) =>
      let second := f a rest
      ⟨first.trail.join second.trail, second.result⟩
  | none => ⟨first.trail, none⟩

instance : Monad Reader where
  pure := done
  bind := bind

def orElse (p q : Reader α) : Reader α := fun text =>
  let first := p text
  match first.result with
  | some _ => first
  | none =>
      let second := q text
      ⟨first.trail.join second.trail, second.result⟩

def firstOf (p : Reader α) (ps : List (Reader α)) : Reader α := ps.foldl orElse p

def scan (f : List Char → Option (α × List Char)) : Reader α := fun text =>
  ⟨.empty, f text⟩

def skip (f : List Char → List Char) : Reader Unit := scan fun text => some ((), f text)

def expect (f : List Char → Option (List Char)) : Reader Unit :=
  scan fun text => (f text).map ((), ·)

def char (c : Char) : Reader Unit := expect fun
  | first :: rest => if first = c then some rest else none
  | [] => none

/-- Leaves a mark on the trail where the rule starts. -/
def rule (p : Reader α) : Reader α := fun text =>
  let reading := p text
  let here : Trail := match reading.result with
    | some _ => ⟨none, some text.length⟩
    | none => ⟨some text.length, none⟩
  ⟨reading.trail.join here, reading.result⟩

/-- A named rule whose inside leaves no trail. -/
def token (f : List Char → Option (α × List Char)) : Reader α := rule (scan f)

def ahead (p : Reader α) : Reader Unit := fun text =>
  let reading := p text
  ⟨reading.trail, reading.result.map fun _ => ((), text)⟩

def notAhead (p : Reader α) : Reader Unit := fun text =>
  let reading := p text
  ⟨reading.trail.exchange, if reading.result.isSome then none else some ((), text)⟩

def optional (p : Reader α) : Reader (Option α) :=
  orElse (bind p fun a => done (some a)) (done none)

def manyFrom (p : Reader α) : Nat → Reader (List α)
  | 0 => done []
  | fuel + 1 => orElse (bind p fun a => bind (manyFrom p fuel) fun as => done (a :: as)) (done [])

/-- As many as there are.  What is read is never empty, so there are no more of them
than characters. -/
def many (p : Reader α) : Reader (List α) := fun text => manyFrom p (text.length + 1) text

end Reader

end RuleBook.Notation
