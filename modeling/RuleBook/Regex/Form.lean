import RuleBook.Regex.Look

/-!
# Simplified patterns

Patterns with flags and names of classes worked out.  The functions that build them
simplify on the way: needless nesting is flattened, neighbouring characters become one
literal, alternatives that are all single characters or all sets become one set, and
a beginning that all alternatives share is taken out in front of them.
-/

namespace RuleBook.Regex

inductive Form where
  | empty
  | literal (text : List Char)
  | set (members : CharSet)
  | look (asked : Look)
  | repeated (body : Form) (least : Nat) (greatest : Option Nat) (greedy : Bool)
  | capture (body : Form)
  | cat (items : List Form)
  | alt (branches : List Form)
  deriving Repr

inductive Direction where
  | forward
  | backward
  deriving Repr, DecidableEq

namespace Form

mutual

def shortest? : Form → Option Nat
  | .empty => some 0
  | .literal text => some text.length
  | .set members => if members.ranges = [] then none else some 1
  | .look _ => some 0
  | .repeated body least _ _ => body.shortest?.map (least * ·)
  | .capture body => body.shortest?
  | .cat items => shortestSum? items
  | .alt branches => shortestOf? branches

def shortestSum? : List Form → Option Nat
  | [] => some 0
  | form :: forms => do some ((← form.shortest?) + (← shortestSum? forms))

def shortestOf? : List Form → Option Nat
  | [] => none
  | [form] => form.shortest?
  | form :: forms => do some (min (← form.shortest?) (← shortestOf? forms))

end

mutual

def isIdle : Form → Bool
  | .empty => true
  | .literal text => text.isEmpty
  | .set _ => false
  | .look _ => true
  | .repeated body _ greatest _ => greatest.isSome && body.isIdle
  | .capture body => body.isIdle
  | .cat items => areIdle items
  | .alt branches => areIdle branches

def areIdle : List Form → Bool
  | [] => true
  | form :: forms => form.isIdle && areIdle forms

end

mutual

def isAnchored (direction : Direction) : Form → Bool
  | .look .textStart => direction == .forward
  | .look .textEnd => direction == .backward
  | .repeated body least _ _ => least != 0 && body.isAnchored direction
  | .capture body => body.isAnchored direction
  | .cat items => isRowAnchored direction items
  | .alt branches => areAnchored direction branches
  | _ => false

def isRowAnchored (direction : Direction) : List Form → Bool
  | [] => false
  | form :: forms =>
      match direction with
      | .forward =>
          form.isAnchored direction || (form.isIdle && isRowAnchored direction forms)
      | .backward =>
          isRowAnchored direction forms || (areIdle forms && form.isAnchored direction)

def areAnchored (direction : Direction) : List Form → Bool
  | [] => true
  | form :: forms => form.isAnchored direction && areAnchored direction forms

end

mutual

/-- Whether two forms are built alike.  A capture is like no other form, as each one
keeps a match of its own. -/
def isLike : Form → Form → Bool
  | .empty, .empty => true
  | .literal a, .literal b => a == b
  | .set a, .set b => a == b
  | .look a, .look b => a == b
  | .repeated a least greatest greedy, .repeated b least' greatest' greedy' =>
      least == least' && greatest == greatest' && greedy == greedy' && a.isLike b
  | .cat as, .cat bs => areLike as bs
  | .alt as, .alt bs => areLike as bs
  | _, _ => false

def areLike : List Form → List Form → Bool
  | [], [] => true
  | a :: as, b :: bs => a.isLike b && areLike as bs
  | _, _ => false

end

def surrogates : CharSet := .range 0xd800 0xdfff

def ofSet (members : CharSet) : Form :=
  let members := members.difference surrogates
  match members.ranges with
  | [(first, last)] => if first = last then .literal [Char.ofNat first] else .set members
  | _ => .set members

def items : Form → List Form
  | .empty => []
  | .cat items => items
  | form => [form]

def joinLiterals : List Form → List Form
  | [] => []
  | .literal text :: forms =>
      match joinLiterals forms with
      | .literal more :: forms => .literal (text ++ more) :: forms
      | forms => .literal text :: forms
  | form :: forms => form :: joinLiterals forms

def ofItems (forms : List Form) : Form :=
  match joinLiterals (forms.flatMap items) with
  | [] => .empty
  | [form] => form
  | forms => .cat forms

def branches : Form → List Form
  | .alt branches => branches
  | form => [form]

def single? : Form → Option Nat
  | .literal [c] => some c.toNat
  | _ => none

def members? : Form → Option CharSet
  | .set members => some members
  | _ => none

def ofBranches (forms : List Form) : Form :=
  match forms.flatMap branches with
  | [] => .set .empty
  | [form] => form
  | forms =>
      match forms.mapM single?, forms.mapM members? with
      | some codes, _ => ofSet (.ofRanges (codes.map fun c => (c, c)))
      | none, some sets => ofSet (.ofRanges (sets.flatMap CharSet.ranges))
      | none, none => .alt forms

def row? : Form → Option (List Form)
  | .cat items => some items
  | _ => none

def sharedStart : List Form → List Form → Nat
  | a :: as, b :: bs => if a.isLike b then sharedStart as bs + 1 else 0
  | _, _ => 0

def ofAlternatives (forms : List Form) : Form :=
  let forms := forms.flatMap branches
  match forms.mapM row? with
  | some (first :: second :: rest) =>
      let rows := second :: rest
      let shared := rows.foldl (fun count row => min count (sharedStart first row)) first.length
      if shared = 0 then ofBranches forms
      else
        let remainders := (first :: rows).map fun row => ofItems (row.drop shared)
        ofItems (first.take shared ++ [ofBranches remainders])
  | _ => ofBranches forms

def ofRepetition (body : Form) (least : Nat) (greatest : Option Nat) (greedy : Bool) : Form :=
  let least := if body.isIdle then min least 1 else least
  let greatest := if body.isIdle then some (min (greatest.getD 1) 1) else greatest
  match least, greatest with
  | 0, some 0 => .empty
  | 1, some 1 => body
  | least, greatest => .repeated body least greatest greedy

end Form

end RuleBook.Regex
