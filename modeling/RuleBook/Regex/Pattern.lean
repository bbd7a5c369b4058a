import RuleBook.Regex.Tree
import RuleBook.Text.Blank
import RuleBook.Text.Hex
import RuleBook.Unicode.Property

/-!
# Reading patterns

From the text of a pattern to its syntax tree.  Reading goes from left to right and
never back; every loop has as much fuel as the pattern has characters, and each round
takes at least one.  In extended mode blanks and comments between the parts are
passed over.
-/

namespace RuleBook.Regex

open RuleBook.Text

/-! ## Cursors -/

/-- The unread rest of a pattern, with whether extended mode is on and the names of
the groups opened so far. -/
structure Cursor where
  rest : List Char
  extended : Bool
  names : List (List Char)

def dropLayout (inComment : Bool) : List Char → List Char
  | [] => []
  | c :: text =>
      if inComment then dropLayout (c != '\n') text
      else if isBlank c then dropLayout false text
      else if c = '#' then dropLayout true text
      else c :: text

namespace Cursor

def settle (c : Cursor) : Cursor :=
  if c.extended then { c with rest := dropLayout false c.rest } else c

def advance (c : Cursor) : Cursor := { c with rest := c.rest.tail }

def next (c : Cursor) : Cursor := c.advance.settle

def char? (c : Cursor) : Option Char := c.rest.head?

def after? (c : Cursor) (token : String) : Option Cursor :=
  if token.toList.isPrefixOf c.rest then
    some { c with rest := c.rest.drop token.length }
  else none

/-- The character that follows the current one, layout passed over in extended mode,
where a comment counts by its first character. -/
def peek? (c : Cursor) : Option Char :=
  if c.extended then
    match c.rest.tail.dropWhile isBlank with
    | '#' :: comment => (comment.dropWhile isBlank).head?
    | text => text.head?
  else c.rest.tail.head?

end Cursor

def takeSpaced (test : Char → Bool) : Nat → Cursor → List Char × Cursor
  | 0, c => ([], c)
  | fuel + 1, c =>
      match c.char? with
      | some first =>
          if test first then
            let (rest, c) := takeSpaced test fuel c.next
            (first :: rest, c)
          else ([], c)
      | none => ([], c)

/-! ## Counts -/

def maxCount : Nat := Nat.pow 2 32 - 1

def takeCount? (c : Cursor) : Option (Option Nat × Cursor) :=
  let c := { c with rest := c.rest.dropWhile isBlank }
  let (digits, c) := takeSpaced Char.isDigit c.rest.length c
  let (_, c) := takeSpaced isBlank c.rest.length c
  if digits = [] then some (none, c)
  else
    let count := Nat.ofDigitChars 10 digits 0
    if count ≤ maxCount then some (some count, c) else none

def takeCounts? (c : Cursor) : Option ((Nat × Option Nat) × Cursor) := do
  let (least?, c) ← takeCount? c.next
  let least ← least?
  let (greatest, c) ←
    if c.char? = some ',' then
      let c := c.next
      if c.char? = some '\x7d' then some (none, c)
      else do
        let (greatest?, c) ← takeCount? c
        some (some (← greatest?), c)
    else some (some least, c)
  if c.char? = some '\x7d' ∧ greatest.all (least ≤ ·) then
    some ((least, greatest), c.next)
  else none

/-! ## Escapes -/

def isMeta (c : Char) : Bool :=
  "\\.+*?()|[]\x7b\x7d^$#&-~".toList.contains c

def isEscapable (c : Char) : Bool :=
  isMeta c || (c.toNat < 128 && !c.isAlphanum && c != '<' && c != '>')

def charOfNat? (n : Nat) : Option Char :=
  if h : n.isValidChar then some (Char.ofNatAux n h) else none

def takeHexDigits? : Nat → Cursor → Option (List Char × Cursor)
  | 0, c => some ([], c)
  | count + 1, c => do
      let first ← c.char?
      if isHexDigit first then
        let (rest, c) ← takeHexDigits? count c.next
        some (first :: rest, c)
      else none

def takeHexEscape? (count : Nat) (c : Cursor) : Option (Atom × Cursor) := do
  if c.char? = some '\x7b' then
    let (digits, c) := takeSpaced (· != '\x7d') c.rest.length c.next
    let char ← charOfNat? (← hexNumber? digits)
    if c.char? = some '\x7d' then some (.char char false, c.next) else none
  else
    let (digits, c) ← takeHexDigits? count c
    let char ← charOfNat? (← hexNumber? digits)
    some (.char char (count = 2), c)

def propertyQuery (name : List Char) : PropertyQuery × Bool :=
  match occurrences ['!', '='] name, occurrences [':'] name, occurrences ['='] name with
  | (property, value) :: _, _, _ => (.valued property value, true)
  | [], (property, value) :: _, _ => (.valued property value, false)
  | [], [], (property, value) :: _ => (.valued property value, false)
  | [], [], [] => (.named name, false)

def takeProperty? (negated : Bool) (c : Cursor) : Option (Atom × Cursor) := do
  let first ← c.char?
  if first = '\x7b' then
    let (name, c) := takeSpaced (· != '\x7d') c.rest.length c.next
    let (query, unequal) := propertyQuery name
    if c.char? = some '\x7d' then
      some (.property query (negated != unequal), c.advance)
    else none
  else if first = '\\' then none
  else some (.property (.named [first]) negated, c.next)

def isWordLookLetter (c : Char) : Bool := c.isAlpha || c == '-'

/-- The word look named in braces after `\b`.  Braces that do not start with a letter
are left for a counted repetition. -/
def takeWordLook? (c : Cursor) : Option (WordLook × Cursor) := do
  if c.char? = some '\x7b' then
    let inside := c.next
    let first ← inside.char?
    if isWordLookLetter first then
      let (name, c) := takeSpaced isWordLookLetter inside.rest.length inside
      let look ← match String.ofList name with
        | "start" => some WordLook.start
        | "end" => some WordLook.finish
        | "start-half" => some WordLook.startHalf
        | "end-half" => some WordLook.finishHalf
        | _ => none
      if c.char? = some '\x7d' then some (look, c.advance) else none
    else some (.boundary, c)
  else some (.boundary, c)

def wordAtom : WordLook × Cursor → Atom × Cursor :=
  fun (look, c) => (.assertion (.word look), c)

def takeEscape? (c : Cursor) : Option (Atom × Cursor) := do
  let letter ← c.char?
  let after := c.advance
  let literal (char : Char) : Option (Atom × Cursor) := some (.char char false, after)
  match letter with
  | 'x' => takeHexEscape? 2 c.next
  | 'u' => takeHexEscape? 4 c.next
  | 'U' => takeHexEscape? 8 c.next
  | 'p' => takeProperty? false c.next
  | 'P' => takeProperty? true c.next
  | 'd' => some (.kind .digit false, after)
  | 'D' => some (.kind .digit true, after)
  | 's' => some (.kind .space false, after)
  | 'S' => some (.kind .space true, after)
  | 'w' => some (.kind .word false, after)
  | 'W' => some (.kind .word true, after)
  | 'a' => literal '\x07'
  | 'f' => literal '\x0c'
  | 't' => literal '\t'
  | 'n' => literal '\n'
  | 'r' => literal '\r'
  | 'v' => literal '\x0b'
  | 'A' => some (.assertion .textStart, after)
  | 'z' => some (.assertion .textEnd, after)
  | 'b' => (takeWordLook? after).map wordAtom
  | 'B' => some (wordAtom (.noBoundary, after))
  | '<' => some (wordAtom (.start, after))
  | '>' => some (wordAtom (.finish, after))
  | char => if isEscapable char then literal char else none

/-! ## Bracketed classes -/

def namedClasses : List String :=
  ["alnum", "alpha", "ascii", "blank", "cntrl", "digit", "graph", "lower", "print", "punct",
    "space", "upper", "word", "xdigit"]

def takeNamedClass? (c : Cursor) : Option (SetTree × Cursor) := do
  let c ← c.after? "[:"
  let (negated, c) := match c.after? "^" with
    | some c => (true, c)
    | none => (false, c)
  let name := c.rest.takeWhile (· != ':')
  let c ← Cursor.after? { c with rest := c.rest.drop name.length } ":]"
  if namedClasses.any (·.toList == name) then some (.named name negated, c) else none

def takeSetAtom? (c : Cursor) : Option (Atom × Cursor) := do
  let first ← c.char?
  if first = '\\' then takeEscape? c.advance else some (.char first false, c.advance)

def memberOfAtom? : Atom → Option SetTree
  | .dot => none
  | .assertion _ => none
  | a => some (.atom a)

/-- One member of a class, or a range of characters.  A hyphen before the closing
bracket or before another hyphen makes no range. -/
def takeMember? (c : Cursor) : Option (SetTree × Cursor) := do
  let (first, c) ← takeSetAtom? c
  let c := c.settle
  if c.rest = [] then none
  else if c.char? ≠ some '-' ∨ c.peek? = some ']' ∨ c.peek? = some '-' then
    some (← memberOfAtom? first, c)
  else
    let (last, c) ← takeSetAtom? c.next
    match first, last with
    | .char a aByte, .char b bByte =>
        if a ≤ b then some (.range a aByte b bByte, c) else none
    | _, _ => none

def unionOf : List SetTree → SetTree
  | [] => .empty
  | [item] => item
  | items => .union items

def closeOperand (pending : Option (SetOperator × SetTree)) (members : List SetTree) :
    SetTree :=
  let right := unionOf members.reverse
  match pending with
  | some (operator, left) => .combine operator left right
  | none => right

def takeSetOperator? (c : Cursor) : Option (SetOperator × Cursor) :=
  match c.rest with
  | '&' :: '&' :: rest => some (.intersection, { c with rest })
  | '-' :: '-' :: rest => some (.difference, { c with rest })
  | '~' :: '~' :: rest => some (.toggle, { c with rest })
  | _ => none

/-- Past an opening bracket: whether it is negated, and the hyphens or the closing
bracket that stand for themselves because they come first. -/
def openBracket (c : Cursor) : Bool × List SetTree × Cursor :=
  let c := c.next
  let (negated, c) := if c.char? = some '^' then (true, c.next) else (false, c)
  let (hyphens, c) := takeSpaced (· == '-') c.rest.length c
  let members := hyphens.map fun hyphen => SetTree.atom (.char hyphen false)
  if members = [] ∧ c.char? = some ']' then (negated, [.atom (.char ']' false)], c.next)
  else (negated, members, c)

/-- The members up to the closing bracket.  Operations group to the left, whichever
they are. -/
def takeMembers? : Nat → Option (SetOperator × SetTree) → List SetTree → Cursor →
    Option (SetTree × Cursor)
  | 0, _, _, _ => none
  | fuel + 1, pending, members, c => do
      let c := c.settle
      let first ← c.char?
      if first = ']' then some (closeOperand pending members, c.advance)
      else if first = '[' then
        match takeNamedClass? c with
        | some (item, c) => takeMembers? fuel pending (item :: members) c
        | none =>
            let (negated, start, inner) := openBracket c
            let (inside, c) ← takeMembers? fuel none start inner
            takeMembers? fuel pending (.bracket negated inside :: members) c
      else
        match takeSetOperator? c with
        | some (operator, c) =>
            takeMembers? fuel (some (operator, closeOperand pending members)) [] c
        | none =>
            let (item, c) ← takeMember? c
            takeMembers? fuel pending (item :: members) c

def takeBracket? (c : Cursor) : Option (Tree × Cursor) := do
  let (negated, start, inner) := openBracket c
  let (inside, c) ← takeMembers? (c.rest.length + 1) none start inner
  some (.bracket negated inside, c)

/-! ## Groups -/

def flagOfLetter? : Char → Option Flag
  | 'i' => some .ignoreCase
  | 'm' => some .multiLine
  | 's' => some .dotAll
  | 'U' => some .swapGreed
  | 'u' => some .unicode
  | 'R' => some .crlf
  | 'x' => some .extended
  | _ => none

/-- Flag letters up to a colon or a closing parenthesis.  Each flag and the minus
stand at most once, and a flag follows the minus. -/
def takeFlags? : List FlagChange → Bool → Bool → List Char →
    Option (List FlagChange × List Char)
  | _, _, _, [] => none
  | changes, negated, dangling, c :: text =>
      if c = ':' ∨ c = ')' then
        if dangling then none else some (changes.reverse, c :: text)
      else if c = '-' then
        if negated then none else takeFlags? changes true true text
      else do
        let flag ← flagOfLetter? c
        if changes.any (·.1 == flag) then none
        else takeFlags? ((flag, !negated) :: changes) negated false text

def flagState? (flag : Flag) (changes : List FlagChange) : Option Bool :=
  (changes.find? (·.1 == flag)).map (·.2)

def isAlphabetic (c : Char) : Bool := Unicode.nextAlphabetic.contains c.toNat

def isNumeric (c : Char) : Bool := Unicode.nextNumeric.contains c.toNat

def isNameStart (c : Char) : Bool := c == '_' || isAlphabetic c

def isNameRest (c : Char) : Bool :=
  isNameStart c || isNumeric c || c == '.' || c == '[' || c == ']'

def takeName? (c : Cursor) : Option Cursor :=
  let name := c.rest.takeWhile (· != '>')
  let c := { c with rest := c.rest.drop name.length }
  match name with
  | [] => none
  | first :: rest =>
      if c.char? = some '>' ∧ isNameStart first ∧ rest.all isNameRest ∧
          !c.names.contains name then
        some { c.advance with names := name :: c.names }
      else none

inductive GroupOpening where
  | flags (changes : List FlagChange) (c : Cursor)
  | group (changes : List FlagChange) (c : Cursor)
  | capture (c : Cursor)

def openNamedGroup? (c : Cursor) : Option Cursor :=
  match c.after? "?P<" with
  | some c => some c
  | none => c.after? "?<"

def openGroup? (c : Cursor) : Option GroupOpening :=
  let c := c.next
  let looksAround := ["?=", "?!", "?<=", "?<!"].any fun token => (c.after? token).isSome
  if looksAround then none
  else
    match openNamedGroup? c with
    | some c => (takeName? c).map .capture
    | none =>
        match c.after? "?" with
        | none => some (.capture c)
        | some c => do
            let (changes, rest) ← takeFlags? [] false false c.rest
            let c := { c with rest := rest.tail }
            if rest.head? = some ':' then some (.group changes c)
            else if changes = [] then none
            else some (.flags changes c)

/-! ## Patterns -/

def concatOf : List Tree → Tree
  | [] => .empty
  | [item] => item
  | items => .concat items

/-- Everything read of a group: its finished branches and the items of the open one,
both latest first. -/
def finishGroup (branches : List Tree) (items : List Tree) : Tree :=
  match concatOf items.reverse :: branches with
  | [branch] => branch
  | branches => .alternation branches.reverse

def repeatLast? (least : Nat) (greatest : Option Nat) (c : Cursor) :
    List Tree → Option (List Tree × Cursor)
  | [] => none
  | .flags _ :: _ => none
  | item :: items =>
      let isLazy := c.char? = some '?'
      some (.repetition item least greatest isLazy :: items, if isLazy then c.advance else c)

def takeAtom? (c : Cursor) : Option (Atom × Cursor) := do
  match ← c.char? with
  | '\\' => takeEscape? c.advance
  | '.' => some (.dot, c.advance)
  | '^' => some (.assertion .lineStart, c.advance)
  | '$' => some (.assertion .lineEnd, c.advance)
  | char => some (.char char false, c.advance)

/-- Reads a group up to its closing parenthesis, or the whole pattern up to its end.
Extended mode lasts to the end of the group that switches it on. -/
def takeGroup? : Nat → Bool → List Tree → List Tree → Cursor → Option (Tree × Cursor)
  | 0, _, _, _, _ => none
  | fuel + 1, nested, branches, items, c => do
      let c := c.settle
      match c.rest with
      | [] => if nested then none else some (finishGroup branches items, c)
      | ')' :: _ => if nested then some (finishGroup branches items, c.advance) else none
      | '|' :: _ =>
          takeGroup? fuel nested (concatOf items.reverse :: branches) [] c.advance
      | '(' :: _ =>
          match ← openGroup? c with
          | .flags changes c =>
              let extended := (flagState? .extended changes).getD c.extended
              takeGroup? fuel nested branches (.flags changes :: items) { c with extended }
          | .group changes inner =>
              let extended := (flagState? .extended changes).getD c.extended
              let (body, inner) ← takeGroup? fuel true [] [] { inner with extended }
              takeGroup? fuel nested branches (.group changes body :: items)
                { inner with extended := c.extended }
          | .capture inner =>
              let (body, inner) ← takeGroup? fuel true [] [] inner
              takeGroup? fuel nested branches (.capture body :: items)
                { inner with extended := c.extended }
      | '[' :: _ =>
          let (item, c) ← takeBracket? c
          takeGroup? fuel nested branches (item :: items) c
      | '?' :: _ =>
          let (items, c) ← repeatLast? 0 (some 1) c.advance items
          takeGroup? fuel nested branches items c
      | '*' :: _ =>
          let (items, c) ← repeatLast? 0 none c.advance items
          takeGroup? fuel nested branches items c
      | '+' :: _ =>
          let (items, c) ← repeatLast? 1 none c.advance items
          takeGroup? fuel nested branches items c
      | '\x7b' :: _ =>
          let ((least, greatest), c) ← takeCounts? c
          let (items, c) ← repeatLast? least greatest c items
          takeGroup? fuel nested branches items c
      | _ =>
          let (a, c) ← takeAtom? c
          takeGroup? fuel nested branches (.atom a :: items) c

def maxDepth : Nat := 250

def Tree.ofPattern? (extended : Bool) (pattern : List Char) : Option Tree := do
  let (tree, _) ← takeGroup? (pattern.length + 1) false [] [] ⟨pattern, extended, []⟩
  if tree.depth ≤ maxDepth then some tree else none

end RuleBook.Regex
