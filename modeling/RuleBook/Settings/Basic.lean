import RuleBook.RuleSet.Basic

/-!
# Settings

What a run can be set up with: the separators of rule texts, whether resolved
references are traced, and the filter of the log.
-/

namespace RuleBook

structure Settings where
  separators : Separators := {}
  traceReferences : Bool := false
  logFilter : String := "info"
  deriving Repr, DecidableEq

namespace Settings

def ruleSet (settings : Settings) : RuleSet := { separators := settings.separators }

end Settings

end RuleBook
