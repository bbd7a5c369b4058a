import RuleBook.Text.Separator
import RuleBook.Toml.Basic

/-!
# Overlaying values

Later values replace earlier ones, except that tables are joined key by key.
-/

namespace RuleBook.Toml

def entriesOf : Option Toml → List (String × Toml)
  | some (.table entries) => entries
  | _ => []

def lookup (key : String) (entries : List (String × Toml)) : Option Toml :=
  (entries.find? (·.1 == key)).map (·.2)

def replace (key : String) (value : Toml) :
    List (String × Toml) → List (String × Toml)
  | [] => [(key, value)]
  | (k, old) :: entries =>
      if k = key then (k, value) :: entries else (k, old) :: replace key value entries

mutual

def overlay (old? : Option Toml) : Toml → Toml
  | .table entries => .table (overlayEntries (entriesOf old?) entries)
  | value => value

def overlayEntries (old : List (String × Toml)) :
    List (String × Toml) → List (String × Toml)
  | [] => old
  | (key, value) :: entries =>
      overlayEntries (replace key (overlay (lookup key old) value) old) entries

end

def overlayAt (value : Toml) : List String → Option Toml → Toml
  | [], old? => overlay old? value
  | key :: path, old? =>
      let old := entriesOf old?
      .table (replace key (overlayAt value path (lookup key old)) old)

def isPathChar (c : Char) : Bool := c.isAlphanum || c == '_' || c == '-'

def pathOfKey (key : List Char) : List String :=
  let pieces := Text.splitOn ['.'] key
  if pieces.all fun piece => piece ≠ [] && piece.all isPathChar then
    pieces.map String.ofList
  else [String.ofList key]

def layer (base : Toml) (pairs : List (String × Toml)) : Toml :=
  pairs.foldl (fun base (key, value) => overlayAt value (pathOfKey key.toList) (some base))
    base

end RuleBook.Toml
