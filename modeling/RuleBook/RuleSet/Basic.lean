import RuleBook.Rule.Text

/-!
# Rule sets

An ordered collection of rules with a name.  The order is the order of insertion, and
rules that were added earlier come first.
-/

namespace RuleBook

inductive RuleSpec where
  /-- A rule as it is. -/
  | rule (rule : Rule)
  /-- A text, with the tail and the name for it to take when it has none itself. -/
  | text (text : String) (tail? : Option Literal) (name : String)
  | parts (head : Literal) (tail? : Option Literal) (name : String)
  | sequence (parts : Literal)

/-- A sequence stands for the parts of a rule, any other literal is a head. -/
def RuleSpec.ofLiteral : Literal → RuleSpec
  | .sequence items => .sequence (.sequence items)
  | head => .parts head none ""

inductive RuleSource where
  /-- Texts of rules with the rule separator between them. -/
  | text (text : String)
  | specs (specs : List RuleSpec)

structure RuleSet where
  name : String := "untitled"
  rules : List Rule := []
  separators : Separators := {}
  /-- The instant that the rules built by this set measure ages from. -/
  now? : Option Instant := none

namespace RuleSet

def source (set : RuleSet) : RuleSource := .specs (set.rules.map .rule)

/-- A rule that is given as it is keeps its own instant. -/
def build (set : RuleSet) : RuleSpec → Except Error Rule
  | .rule rule => .ok rule
  | .text text tail? name => do
      let rule ← Rule.ofText set.separators text tail? name
      return { rule with now? := set.now? }
  | .parts head tail? name => do
      let rule ← Rule.ofParts head tail? name
      return { rule with now? := set.now? }
  | .sequence parts => do
      let rule ← Rule.ofSequence set.separators parts
      return { rule with now? := set.now? }

def specs (set : RuleSet) : RuleSource → List RuleSpec
  | .text text =>
      ((Text.splitOn set.separators.rule.toList text.toList).filter
        fun piece => !piece.all Text.isBlank).map fun piece =>
          .text (String.ofList piece) none ""
  | .specs specs => specs

def add (set : RuleSet) (spec : RuleSpec) : RuleSet × Except Error Rule :=
  match set.build spec with
  | .ok rule => ({ set with rules := set.rules ++ [rule] }, .ok rule)
  | .error e => (set, .error e)

/-- Builds all of a source before any of it is stored, and counts the rules. -/
def addAll (set : RuleSet) (source : RuleSource) : RuleSet × Except Error Nat :=
  match (set.specs source).mapM set.build with
  | .ok rules => ({ set with rules := set.rules ++ rules }, .ok rules.length)
  | .error e => (set, .error e)

def ofSource (name : String) (source : RuleSource) : Except Error RuleSet :=
  let (set, count) := addAll { name } source
  count.map fun _ => set

def merge (set other : RuleSet) : RuleSet × Nat :=
  ({ set with rules := set.rules ++ other.rules }, other.rules.length)

/-- Erases the first rule that reads as the given text; none when there is none. -/
def eraseText? (separators : Separators) (text : List Char) :
    List Rule → Option (List Rule)
  | [] => none
  | rule :: rules =>
      if rule.write separators = text then some rules
      else (eraseText? separators text rules).map (rule :: ·)

def delete (set : RuleSet) (spec : RuleSpec) : RuleSet × Except Error Bool :=
  match set.build spec with
  | .error e => (set, .error e)
  | .ok rule =>
      match eraseText? set.separators (rule.write set.separators) set.rules with
      | some rules => ({ set with rules }, .ok true)
      | none => (set, .ok false)

/-- Deletes one after the other, up to the first one that cannot be built; what was
deleted before it stays deleted. -/
def deleteEach (set : RuleSet) (deleted : Nat) :
    List RuleSpec → RuleSet × Except Error Nat
  | [] => (set, .ok deleted)
  | spec :: specs =>
      match set.delete spec with
      | (left, .error e) => (left, .error e)
      | (left, .ok found) => deleteEach left (if found then deleted + 1 else deleted) specs

def deleteAll (set : RuleSet) (source : RuleSource) : RuleSet × Except Error Nat :=
  deleteEach set 0 (set.specs source)

def clear (set : RuleSet) : RuleSet := { set with rules := [] }

def write (set : RuleSet) : List Char :=
  Text.join set.separators.rule.toList (set.rules.map (Rule.write set.separators))

def text (set : RuleSet) : String := String.ofList set.write

def toJson (set : RuleSet) : Json := .array (set.rules.map Rule.toJson)

def pairs (set : RuleSet) : List (Literal × Literal) :=
  set.rules.map fun rule => (rule.head, rule.tail)

end RuleSet

end RuleBook
