import RuleBook.Regex.Form
import RuleBook.Regex.Utf8
import Std.Data.HashMap

/-!
# The size of automata

A pattern is too large when an automaton for it, one that reads the bytes of a text
forwards or one that reads them backwards, takes more memory than allowed.  Here the
automata are laid out without being kept: states are numbered in the order in which
they are made, and only their number and their arrows are counted.
-/

namespace RuleBook.Regex

def stateSize : Nat := 32

def arrowSize : Nat := 8

def branchSize : Nat := 4

def maxSize : Nat := 10 * Nat.pow 2 20

structure Outlay where
  states : Nat
  extra : Nat
  deriving Repr, DecidableEq

namespace Outlay

def size (outlay : Outlay) : Nat := stateSize * outlay.states + outlay.extra

def plus (a b : Outlay) : Outlay := ⟨a.states + b.states, a.extra + b.extra⟩

def sum (outlays : List Outlay) : Outlay := outlays.foldl plus ⟨0, 0⟩

def add? (states extra : Nat) (outlay : Outlay) : Option Outlay :=
  let next := outlay.plus ⟨states, extra⟩
  if next.size ≤ maxSize then some next else none

end Outlay

/-- The outlay up to the end of a part, and whether its last state is a fork, which takes
a branch for leaving the part. -/
structure Part where
  outlay : Outlay
  endsInFork : Bool
  deriving Repr, DecidableEq

abbrev Builder := Outlay → Option Part

def Part.leave? (part : Part) : Option Outlay :=
  part.outlay.add? 0 (if part.endsInFork then branchSize else 0)

def plainPart? (states extra : Nat) : Builder := fun outlay =>
  (outlay.add? states extra).map (⟨·, false⟩)

/-- States by what they do.  There is a fixed number of slots; where two states fall into
one slot, the later one is kept and the earlier one is not found again. -/
structure Memo where
  slots : UInt64
  states : Std.HashMap UInt64 (List Nat × Nat)

namespace Memo

def empty (slots : UInt64) : Memo := ⟨slots, ∅⟩

def hash (key : List Nat) : UInt64 :=
  key.foldl (fun h n => (h ^^^ n.toUInt64) * 1099511628211) 14695981039346656037

def slot (memo : Memo) (key : List Nat) : UInt64 := hash key % memo.slots

def state? (memo : Memo) (key : List Nat) : Option Nat :=
  match memo.states[memo.slot key]? with
  | some (kept, state) => if kept = key then some state else none
  | none => none

def keep (memo : Memo) (key : List Nat) (state : Nat) : Memo :=
  { memo with states := memo.states.insert (memo.slot key) (key, state) }

end Memo

structure Draft where
  memo : Memo
  outlay : Outlay

def Draft.state? (draft : Draft) (key : List Nat) (extra : Nat) : Option (Nat × Draft) :=
  match draft.memo.state? key with
  | some state => some (state, draft)
  | none => do
      let state := draft.outlay.states
      some (state, ⟨draft.memo.keep key state, ← draft.outlay.add? 1 extra⟩)

def byFirstRange : List ByteRanges → List ((Nat × Nat) × List ByteRanges)
  | [] => []
  | [] :: rows => byFirstRange rows
  | (range :: row) :: rows =>
      match byFirstRange rows with
      | (next, tails) :: groups =>
          if range = next then (range, row :: tails) :: groups
          else (range, [row]) :: (next, tails) :: groups
      | [] => [(range, [row])]

def treeState? (target : Nat) : Nat → List ByteRanges → Draft → Option (Nat × Draft)
  | 0, _, draft => some (target, draft)
  | depth + 1, rows, draft =>
      if rows.all List.isEmpty then some (target, draft)
      else do
        let (keys, draft) ← (byFirstRange rows).foldlM
          (fun (keys, draft) ((first, last), tails) => do
            let (next, draft) ← treeState? target depth tails draft
            some ([first, last, next] :: keys, draft))
          (([] : List (List Nat)), draft)
        draft.state? keys.reverse.flatten (arrowSize * keys.length)

/-- Forwards, characters with the same first bytes share states. -/
def forwardSet? (rows : List ByteRanges) : Builder := fun outlay => do
  let target := outlay.states
  let draft : Draft := ⟨.empty 10000, ← outlay.add? 1 0⟩
  let (_, draft) ← treeState? target 4 rows draft
  some ⟨draft.outlay, false⟩

/-- Backwards, each piece is a chain of its own behind one fork; chains share what they
have in common next to their ends. -/
def backwardSet? (rows : List ByteRanges) : Builder := fun outlay => do
  let target := outlay.states + 1
  let draft : Draft := ⟨.empty 1000, ← outlay.add? 2 0⟩
  let draft ← rows.foldlM
    (fun draft row => do
      let (_, draft) ← row.foldlM
        (fun (next, draft) (first, last) => Draft.state? draft [next, first, last] 0)
        (target, draft)
      some { draft with outlay := ← draft.outlay.add? 0 branchSize })
    draft
  some ⟨draft.outlay, false⟩

def setPart? (direction : Direction) (members : CharSet) : Builder :=
  if members.within 0x7f then plainPart? 2 (arrowSize * members.ranges.length)
  else
    let rows := members.ranges.flatMap byteRangesOf
    match direction with
    | .forward => forwardSet? rows
    | .backward => backwardSet? rows

abbrev Word := List Nat

def cutAtEmpty : List Word → List (List Word)
  | [] => [[]]
  | [] :: words => [] :: cutAtEmpty words
  | word :: words =>
      match cutAtEmpty words with
      | run :: runs => (word :: run) :: runs
      | [] => [[word]]

def joinEmpty (words : List Word) : List Word :=
  match words.span List.isEmpty with
  | ([], words) => words
  | (_ :: _, words) => [] :: words

def firstBytes (words : List Word) : List Nat := (words.filterMap List.head?).eraseDups

def tailsAfter (byte : Nat) (words : List Word) : List Word :=
  words.filterMap fun
    | [] => none
    | first :: tail => if first = byte then some tail else none

/-- A tree of words.  An inner node is a fork into the runs of words between the empty
words, and to the end for each of these; a leaf takes nothing. -/
def wordTree : Nat → List Word → Outlay
  | 0, _ => ⟨0, 0⟩
  | depth + 1, words =>
      if words.all List.isEmpty then ⟨0, 0⟩
      else
        let words := joinEmpty words
        let runs := (cutAtEmpty words).filter (· ≠ [])
        let branches := runs.length + words.countP List.isEmpty
        let parts := runs.map fun run =>
          let bytes := firstBytes run
          let arrows := if bytes.length < 2 then 0 else bytes.length
          Outlay.sum (⟨1, arrowSize * arrows⟩ ::
            bytes.map fun byte => wordTree depth (tailsAfter byte run))
        Outlay.sum (⟨1, branchSize * branches⟩ :: parts)

def bytesOfText (text : List Char) : Word := text.flatMap fun c => utf8Bytes c.toNat

def wordsPart? (direction : Direction) (texts : List (List Char)) : Builder :=
  let words := texts.map fun text =>
    match direction with
    | .forward => bytesOfText text
    | .backward => (bytesOfText text).reverse
  let depth := words.foldl (fun depth word => max depth word.length) 0
  let tree := wordTree (depth + 1) words
  plainPart? (tree.states + 1) tree.extra

def copies? (build : Builder) : Nat → Builder
  | 0, outlay => plainPart? 1 0 outlay
  | 1, outlay => build outlay
  | count + 2, outlay => do copies? build (count + 1) (← (← build outlay).leave?)

/-- Adds copies that may be passed over, each behind a fork of its own. -/
def optionalCopies? (build : Builder) : Nat → Part → Option Part
  | 0, part => part.leave?.map (⟨·, false⟩)
  | count + 1, part => do
      let outlay ← (← part.leave?).add? 1 (2 * branchSize)
      optionalCopies? build count (← build outlay)

def loop? (build : Builder) : Builder := fun outlay => do
  some ⟨← (← (← build outlay).leave?).add? 1 branchSize, true⟩

def repeatedPart? (build : Builder) (takesSome : Bool) (least : Nat) (greatest : Option Nat) :
    Builder := fun outlay =>
  match least, greatest with
  | 0, none => do
      if takesSome then
        let part ← build (← outlay.add? 1 branchSize)
        some ⟨← part.leave?, true⟩
      else
        let part ← build outlay
        plainPart? 3 (4 * branchSize) (← part.leave?)
  | 1, none => loop? build outlay
  | count + 2, none => do
      loop? build (← (← copies? build (count + 1) outlay).leave?)
  | 0, some 1 => do
      let part ← build (← outlay.add? 1 0)
      plainPart? 1 (2 * branchSize) (← part.leave?)
  | least, some greatest => do
      let part ← copies? build least outlay
      if least = greatest then some part
      else
        let outlay ← part.outlay.add? 1 0
        optionalCopies? build (greatest - least) { part with outlay }

namespace Form

def text? : Form → Option (List Char)
  | .literal text => some text
  | _ => none

mutual

/-- Lays out the states for a form.  Matches are kept while reading forwards only. -/
def part? (direction : Direction) : Form → Builder
  | .empty, outlay => plainPart? 1 0 outlay
  | .literal text, outlay => plainPart? (bytesOfText text).length 0 outlay
  | .set members, outlay => setPart? direction members outlay
  | .look _, outlay => plainPart? 1 0 outlay
  | .repeated body least greatest _, outlay =>
      let takesSome := body.shortest?.any (0 < ·)
      repeatedPart? (body.part? direction) takesSome least greatest outlay
  | .capture body, outlay =>
      match direction with
      | .forward => do
          let part ← body.part? direction (← outlay.add? 1 0)
          plainPart? 1 0 (← part.leave?)
      | .backward => body.part? direction outlay
  | .cat items, outlay => rowPart? direction items outlay
  | .alt branches, outlay =>
      match branches.mapM text? with
      | some texts => wordsPart? direction texts outlay
      | none => (branchesOutlay? direction 0 branches outlay).map (⟨·, false⟩)

def rowPart? (direction : Direction) : List Form → Builder
  | [], outlay => plainPart? 1 0 outlay
  | [form], outlay => form.part? direction outlay
  | form :: forms, outlay =>
      match direction with
      | .forward => do
          let part ← form.part? direction outlay
          rowPart? direction forms (← part.leave?)
      | .backward => do
          let part ← rowPart? direction forms outlay
          form.part? direction (← part.leave?)

def branchesOutlay? (direction : Direction) (place : Nat) :
    List Form → Outlay → Option Outlay
  | [], outlay => some outlay
  | form :: forms, outlay => do
      let part ← form.part? direction outlay
      let outlay ← (← part.leave?).add? (if place = 1 then 2 else 0) branchSize
      branchesOutlay? direction (place + 1) forms outlay

end

/-- The outlay of a whole automaton.  Unless matches are tied to where reading starts, a
loop before the pattern passes over any bytes. -/
def outlay? (direction : Direction) (form : Form) : Option Outlay := do
  let start : Outlay := ⟨0, 0⟩
  let lead ←
    if form.isAnchored direction then start.add? 1 0
    else start.add? 3 (arrowSize + 2 * branchSize)
  let part ← part? direction (.capture form) lead
  (← part.leave?).add? 1 0

def fits (form : Form) : Bool :=
  (form.outlay? .forward).isSome && (form.outlay? .backward).isSome

end Form

end RuleBook.Regex
