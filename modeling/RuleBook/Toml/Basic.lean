/-!
# TOML values

The values of a TOML document, and the assembly of its tables from headers and pairs.
A key has one value, a header opens a table once, and tables that dotted keys made are
not opened by headers.
-/

namespace RuleBook

inductive Toml where
  | bool (b : Bool)
  | integer (n : Int)
  | float (x : Float)
  | string (s : String)
  /-- A date or a time, by its text. -/
  | moment (text : String)
  | array (items : List Toml)
  | table (entries : List (String × Toml))
  deriving Inhabited

namespace Toml

inductive Origin where
  /-- On the way to a table with a longer header. -/
  | implied
  | header
  | dotted
  deriving DecidableEq

inductive Node where
  | leaf (value : Toml)
  | table (origin : Origin) (entries : List (String × Node))
  /-- An array of tables, the last of which is open. -/
  | tables (closed : List (List (String × Node))) (last : List (String × Node))
  deriving Inhabited

abbrev Entries := List (String × Node)

namespace Entries

def get? (key : String) (entries : Entries) : Option Node :=
  (entries.find? (·.1 == key)).map (·.2)

def put (key : String) (node : Node) (entries : Entries) : Entries :=
  if entries.any (·.1 == key) then
    entries.map fun entry => if entry.1 == key then (key, node) else entry
  else entries ++ [(key, node)]

def within? (change : Entries → Option Entries) : List String → Entries → Option Entries
  | [], entries => change entries
  | key :: path, entries => do
      let node ← match entries.get? key with
        | none => (within? change path []).map (Node.table .implied)
        | some (.table origin inner) => (within? change path inner).map (Node.table origin)
        | some (.tables closed last) => (within? change path last).map (Node.tables closed)
        | some (.leaf _) => none
      some (entries.put key node)

def openTable? (key : String) (entries : Entries) : Option Entries :=
  match entries.get? key with
  | none => some (entries.put key (.table .header []))
  | some (.table .implied inner) => some (entries.put key (.table .header inner))
  | some _ => none

def appendTable? (key : String) (entries : Entries) : Option Entries :=
  match entries.get? key with
  | none => some (entries.put key (.tables [] []))
  | some (.tables closed last) => some (entries.put key (.tables (closed ++ [last]) []))
  | some _ => none

def insert? (value : Toml) : List String → Entries → Option Entries
  | [], _ => none
  | [key], entries =>
      match entries.get? key with
      | none => some (entries.put key (.leaf value))
      | some _ => none
  | key :: path, entries => do
      let inner ← match entries.get? key with
        | none => some []
        | some (.table .dotted inner) => some inner
        | some _ => none
      some (entries.put key (.table .dotted (← insert? value path inner)))

end Entries

mutual

def Node.finish : Node → Toml
  | .leaf value => value
  | .table _ entries => .table (finishEntries entries)
  | .tables closed last => .array (finishTables closed ++ [.table (finishEntries last)])

def finishEntries : List (String × Node) → List (String × Toml)
  | [] => []
  | (key, node) :: entries => (key, node.finish) :: finishEntries entries

def finishTables : List (List (String × Node)) → List Toml
  | [] => []
  | entries :: tables => .table (finishEntries entries) :: finishTables tables

end

def ofPairs? (pairs : List (List String × Toml)) : Option Toml := do
  let entries ← pairs.foldlM (fun entries (path, value) => Entries.insert? value path entries) []
  some (.table (finishEntries entries))

inductive Statement where
  | header (path : List String)
  | arrayHeader (path : List String)
  | pair (path : List String) (value : Toml)

abbrev Assembly := Entries × List String

def Assembly.extend? : Assembly → Statement → Option Assembly
  | (entries, _), .header path => do
      let key ← path.getLast?
      some (← Entries.within? (Entries.openTable? key) path.dropLast entries, path)
  | (entries, _), .arrayHeader path => do
      let key ← path.getLast?
      some (← Entries.within? (Entries.appendTable? key) path.dropLast entries, path)
  | (entries, current), .pair path value => do
      some (← Entries.within? (Entries.insert? value path) current entries, current)

def ofStatements? (statements : List Statement) : Option Toml := do
  let (entries, _) ← statements.foldlM Assembly.extend? ([], [])
  some (.table (finishEntries entries))

end Toml

end RuleBook
