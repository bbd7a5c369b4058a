import RuleBook.Notation.Write
import RuleBook.Settings.Basic
import RuleBook.Toml.Overlay
import RuleBook.Toml.Read

/-!
# Settings from a file and the environment

A document gives settings, and environment variables override them.  Scalars are taken
for texts and for booleans where they can be.
-/

namespace RuleBook.Settings

def floatText (x : Float) : String :=
  if Number.isFinite x || Number.isNaN x then String.ofList (Notation.numberText x)
  else if Number.isNegative x then "-inf" else "inf"

def textOf? : Toml → Option String
  | .string s => some s
  | .moment s => some s
  | .bool b => some (if b then "true" else "false")
  | .integer n => some (toString n)
  | .float x => some (floatText x)
  | .array _ => none
  | .table _ => none

def wordIsTrue? (word : List Char) : Option Bool :=
  let word := String.ofList (word.map Char.toLower)
  if ["1", "true", "on", "yes"].contains word then some true
  else if ["0", "false", "off", "no"].contains word then some false
  else none

def truthOf? : Toml → Option Bool
  | .bool b => some b
  | .integer n => some (n != 0)
  | .float x => some (Number.isNaN x || Number.magnitudeBits x != 0)
  | .string s => wordIsTrue? s.toList
  | .moment s => wordIsTrue? s.toList
  | .array _ => none
  | .table _ => none

abbrev Field (σ : Type) := String × (σ → Toml → Option σ)

def readRecord? {σ : Type} (fields : List (Field σ)) (record : σ) : Toml → Option σ
  | .table entries =>
      fields.foldlM (fun record (name, put?) =>
        match Toml.lookup name entries with
        | some value => put? record value
        | none => some record) record
  | .array items =>
      (fields.zip items).foldlM (fun record ((_, put?), value) => put? record value) record
  | _ => none

def separatorLayers : List (Field Separators) :=
  [("head_tail_separator", fun separators value =>
      (textOf? value).map fun s => { separators with headTail := s }),
    ("name_separator", fun separators value =>
      (textOf? value).map fun s => { separators with name := s }),
    ("rule_separator", fun separators value =>
      (textOf? value).map fun s => { separators with rule := s })]

def matchingLayers : List (Field Bool) :=
  [("trace_references", fun _ value => truthOf? value)]

def layers : List (Field Settings) :=
  [("notation", fun settings value =>
      (readRecord? separatorLayers {} value).map fun separators =>
        { settings with separators }),
    ("matching", fun settings value =>
      (readRecord? matchingLayers false value).map fun traced =>
        { settings with traceReferences := traced }),
    ("log_filter", fun settings value =>
      (textOf? value).map fun s => { settings with logFilter := s })]

def environmentMark : List Char := "siftrule__".toList

/-- The pairs that environment variables stand for.  Their names begin with the mark, in
any case, and two underscores join the keys of a path. -/
def ofEnvironment (environment : List (String × String)) : List (String × Toml) :=
  environment.filterMap fun (name, value) =>
    (Text.dropToken? environmentMark (name.toList.map Char.toLower)).map fun key =>
      (String.ofList (Text.join ['.'] (Text.splitOn ['_', '_'] key)), .string value)

/-- The settings of a document, if there is one, overridden by the environment. -/
def load? (document? : Option Toml) (environment : List (String × String)) :
    Option Settings :=
  let base := Toml.layer (.table []) (Toml.entriesOf document?)
  readRecord? layers {} (Toml.layer base (ofEnvironment environment))

end RuleBook.Settings
