import RuleBook.Json.Record
import RuleBook.Settings.Basic

/-!
# Settings from JSON
-/

namespace RuleBook.Settings

def separatorFields : List (Json.Field Separators) :=
  [.string "head_tail_separator" fun s separators => { separators with headTail := s },
    .string "name_separator" fun s separators => { separators with name := s },
    .string "rule_separator" fun s separators => { separators with rule := s }]

def matchingFields : List (Json.Field Bool) := [.bool "trace_references" fun b _ => b]

def fields : List (Json.Field Settings) :=
  [{ name := "notation"
     take? := fun settings text =>
       (Json.Field.takeRecord? separatorFields {} text).map fun (separators, rest) =>
         ({ settings with separators }, rest) },
    { name := "matching"
      take? := fun settings text =>
        (Json.Field.takeRecord? matchingFields false text).map fun (traced, rest) =>
          ({ settings with traceReferences := traced }, rest) },
    .string "log_filter" fun s settings => { settings with logFilter := s }]

/-- Reads settings, of which those that are left out have their usual values. -/
def parseJson (text : String) : Except ParseError Settings :=
  match Json.Field.parse? fields {} text.toList with
  | some settings => .ok settings
  | none => .error .json

end RuleBook.Settings
