import RuleBook.Unicode.Age
import RuleBook.Unicode.Break
import RuleBook.Unicode.Property
import RuleBook.Unicode.Script

/-!
# Names of character classes

Looking up general categories, scripts, ages, break classes and binary properties by
name.  Names match loosely: case, blanks, hyphens, underscores and a leading `is` make
no difference.
-/

namespace RuleBook.Unicode

def looseName (name : List Char) : List Char :=
  let (prefixed, name) := match name with
    | i :: s :: rest =>
        if i.toLower = 'i' ∧ s.toLower = 's' then (true, rest) else (false, name)
    | _ => (false, name)
  let kept := name.filter fun c => c != ' ' && c != '_' && c != '-' && c.toNat < 128
  match prefixed, kept.map Char.toLower with
  | true, ['c'] => ['i', 's', 'c']
  | _, lowered => lowered

/-- Category letters with their loose long names.  The letters are the start of the
labels of all categories they cover. -/
def categoryNames : List (String × List String) :=
  [("C", ["other"]), ("Cc", ["control", "cntrl"]), ("Cf", ["format"]), ("Cn", ["unassigned"]),
    ("Co", ["privateuse"]), ("L", ["letter"]), ("Ll", ["lowercaseletter"]),
    ("Lm", ["modifierletter"]), ("Lo", ["otherletter"]), ("Lt", ["titlecaseletter"]),
    ("Lu", ["uppercaseletter"]), ("M", ["mark", "combiningmark"]), ("Mc", ["spacingmark"]),
    ("Me", ["enclosingmark"]), ("Mn", ["nonspacingmark"]), ("N", ["number"]),
    ("Nd", ["decimalnumber", "digit"]), ("Nl", ["letternumber"]), ("No", ["othernumber"]),
    ("P", ["punctuation", "punct"]), ("Pc", ["connectorpunctuation"]),
    ("Pd", ["dashpunctuation"]), ("Pe", ["closepunctuation"]), ("Pf", ["finalpunctuation"]),
    ("Pi", ["initialpunctuation"]), ("Po", ["otherpunctuation"]), ("Ps", ["openpunctuation"]),
    ("S", ["symbol"]), ("Sc", ["currencysymbol"]), ("Sk", ["modifiersymbol"]),
    ("Sm", ["mathsymbol"]), ("So", ["othersymbol"]), ("Z", ["separator"]),
    ("Zl", ["lineseparator"]), ("Zp", ["paragraphseparator"]), ("Zs", ["spaceseparator"])]

def categoryNamed? (name : List Char) : Option CharSet :=
  match String.ofList name with
  | "any" => some CharSet.empty.complement
  | "assigned" => some unassigned.complement
  | "ascii" => some (.range 0 0x7f)
  | "lc" => some ((category "Ll").union ((category "Lt").union (category "Lu")))
  | "casedletter" => some ((category "Ll").union ((category "Lt").union (category "Lu")))
  | text =>
      (categoryNames.find? fun (letters, names) =>
        letters.toList.map Char.toLower == name || names.contains text).map
          fun (letters, _) => category letters

def scriptNamed? (name : List Char) : Option CharSet := (scriptLabel? name).map script

/-- The class a single name stands for.  `cf`, `sc` and `lc` are categories although
properties have these names too. -/
def classNamed? (name : List Char) : Option CharSet :=
  let name := looseName name
  let text := String.ofList name
  let binary := if text = "cf" ∨ text = "sc" ∨ text = "lc" then none else property? name
  binary <|> categoryNamed? name <|> scriptNamed? name

/-- How the classes of a property with values are found from their names. -/
structure ValuedProperty where
  names : List String
  value? : List Char → Option CharSet

def valuedProperties : List ValuedProperty :=
  [⟨["age"], age?⟩,
    ⟨["gc", "generalcategory"], categoryNamed?⟩,
    ⟨["gcb", "graphemeclusterbreak"], breakValue? graphemeBreakValues⟩,
    ⟨["sb", "sentencebreak"], breakValue? sentenceBreakValues⟩,
    ⟨["sc", "script"], scriptNamed?⟩,
    ⟨["scx", "scriptextensions"], fun value => (scriptLabel? value).map scriptExtension⟩,
    ⟨["wb", "wordbreak"], breakValue? wordBreakValues⟩]

def classValued? (name value : List Char) : Option CharSet := do
  let name := String.ofList (looseName name)
  let property ← valuedProperties.find? (·.names.contains name)
  property.value? (looseName value)

end RuleBook.Unicode
