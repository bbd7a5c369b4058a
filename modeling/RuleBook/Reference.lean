import RuleBook.Pointer

/-!
# References in heads

A head may hold markers, mappings with the key `$ref` whose value is a pointer.
Before a match each marker is replaced by what the pointer finds in the record.
-/

namespace RuleBook.Reference

def markerKey : String := "$ref"

mutual

def occursIn : Literal → Bool
  | .sequence items => occursInItems items
  | .mapping entries => occursInEntries entries
  | _ => false

def occursInItems : List Literal → Bool
  | [] => false
  | item :: items => occursIn item || occursInItems items

def occursInEntries : List (String × Literal) → Bool
  | [] => false
  | (key, value) :: entries => key == markerKey || occursIn value || occursInEntries entries

end

mutual

/-- Replaces every marker by what `resolve` makes of its target.  Replacements are not
looked into again. -/
def substitute (resolve : Literal → Literal) : Literal → Literal
  | .sequence items => .sequence (substituteItems resolve items)
  | .mapping entries =>
      match Literal.lookup markerKey entries with
      | some target => resolve target
      | none => .mapping (substituteEntries resolve entries)
  | x => x

def substituteItems (resolve : Literal → Literal) : List Literal → List Literal
  | [] => []
  | item :: items => substitute resolve item :: substituteItems resolve items

def substituteEntries (resolve : Literal → Literal) :
    List (String × Literal) → List (String × Literal)
  | [] => []
  | (key, value) :: entries =>
      (key, substitute resolve value) :: substituteEntries resolve entries

end

/-- The value a marker target stands for in a record; NaN when it is no pointer or
leads nowhere. -/
def target (record : Literal) : Literal → Literal
  | .string pointer => (Pointer.resolve? record pointer.toList).getD .nan
  | _ => .nan

def dereference (head record : Literal) : Literal := substitute (target record) head

end RuleBook.Reference
