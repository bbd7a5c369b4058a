import RuleBook.RuleSet.Query
import RuleBook.Settings.Layers
import RuleBook.Text.Lines

/-!
# Command line

`[--config FILE] [--all] RULES_FILE` applies the rules of a file to JSON records, one a
line.  For every record the tail of the first rule that matches is printed, or all tails
with `--all`.  Lines that hold no record are passed over.  A line that cannot be read ends
the run, and so do the first failure to match and an output that takes no more.
-/

namespace RuleBook.CommandLine

structure Options where
  config? : Option String := none
  all : Bool := false
  rules : String := ""
  deriving Repr, DecidableEq

/-- Reads options on from those read so far.  What comes later counts; a name of a file
with rules is needed. -/
def readOptions? (config? : Option String) (all : Bool) (rules? : Option String) :
    List String → Option Options
  | [] => rules?.map fun rules => { config?, all, rules }
  | "--config" :: arguments =>
      match arguments with
      | [] => none
      | path :: arguments => readOptions? (some path) all rules? arguments
  | "--all" :: arguments => readOptions? config? true rules? arguments
  | argument :: arguments =>
      if ['-', '-'].isPrefixOf argument.toList then none
      else readOptions? config? all (some argument) arguments

def Options.ofArguments? (arguments : List String) : Option Options :=
  readOptions? none false none arguments

def pathParts (path : String) : List (List Char) :=
  (Text.splitOn ['/'] path.toList).filter fun part => part ≠ [] && part ≠ ['.']

abbrev Files := List (String × String)

def Files.get? (files : Files) (path : String) : Option String :=
  (files.find? fun (name, _) => pathParts name = pathParts path).map (·.2)

def isToml (path : String) : Bool :=
  match (pathParts path).getLast? with
  | none => false
  | some name =>
      match (Text.splitOn ['.'] name).reverse with
      | extension :: stem :: rest =>
          extension == "toml".toList && !(stem.isEmpty && rest.isEmpty)
      | _ => false

def settingsText? (files : Files) (path : String) : Option String :=
  match files.get? path with
  | some text => if isToml path then some text else none
  | none => files.get? (path ++ ".toml")

def defaultSettingsPath : String := "siftrule"

/-- A settings file that is named has to be there. -/
def settings? (options : Options) (files : Files) (environment : List (String × String)) :
    Option Settings :=
  let text? := settingsText? files (options.config?.getD defaultSettingsPath)
  match text?, options.config? with
  | some text, _ => do
      let document ← Toml.parse? text.toList
      Settings.load? (some document) environment
  | none, none => Settings.load? none environment
  | none, some _ => none

def Options.paths (options : Options) : List String :=
  let config := options.config?.getD defaultSettingsPath
  [config, config ++ ".toml", options.rules]

def ruleSet? (options : Options) (files : Files) (environment : List (String × String)) :
    Option RuleSet := do
  let settings ← settings? options files environment
  let text ← files.get? options.rules
  match { settings.ruleSet with name := options.rules }.addAll (.text text) with
  | (set, .ok _) => some set
  | (_, .error _) => none

/-- The answer to a record.  The clock is read for each rule, here by the place of the rule. -/
def answer (set : RuleSet) (all : Bool) (moments : Nat → Instant) (record : Literal) :
    Except Error (List Char) :=
  let set := set.asOf moments
  if all then do
    let tails ← set.filterApply (moments 0) record
    return Notation.write (.sequence tails)
  else do
    let tail? ← set.firstApply? (moments 0) record
    return match tail? with
      | some tail => Notation.write tail
      | none => "undefined".toList

/-- What a run uses of the system it runs in. -/
structure Console (m : Type → Type) where
  /-- The instants at which a record meets the rules, by their places. -/
  moments : m (Nat → Instant)
  /-- Whether all of a text was printed. -/
  print : List Char → m Bool

section

variable {m : Type → Type} [Monad m] (set : RuleSet) (all : Bool) (console : Console m)

/-- Prints the answer to a line that holds a record; whether the run goes on. -/
def answerLine : Text.Line → m Bool
  | none => return false
  | some line => do
      if line.toList.all Text.isBlank then return true
      match Literal.parseJson line with
      | .error _ => return true
      | .ok record =>
          match answer set all (← console.moments) record with
          | .error _ => return false
          | .ok text => console.print (text ++ ['\n'])

/-- Answers one line after the other; whether all of them were answered. -/
def answerLines {ρ : Type} [ForIn m ρ Text.Line] (lines : ρ) : m Bool := do
  for line in lines do
    unless ← answerLine set all console line do
      return false
  return true

end

/-- What a run finds. -/
structure Surroundings where
  files : Files
  environment : List (String × String) := []
  /-- The instant at which a record meets a rule, by the places of the two. -/
  clock : Nat → Nat → Instant
  lines : List Text.Line
  /-- How much the output takes, where it does not take everything. -/
  room? : Option Nat := none

structure Progress where
  asked : Nat := 0
  output : List Char := []
  deriving Repr, DecidableEq

def fits (room? : Option Nat) (text : List Char) : Bool := room?.all (text.length ≤ ·)

def taken (room? : Option Nat) (text : List Char) : List Char :=
  match room? with
  | some room => text.take room
  | none => text

def Surroundings.console (surroundings : Surroundings) : Console (StateM Progress) where
  moments := modifyGet fun progress =>
    (surroundings.clock progress.asked, { progress with asked := progress.asked + 1 })
  print text := modifyGet fun progress =>
    let output := progress.output ++ text
    (fits surroundings.room? output,
      { progress with output := taken surroundings.room? output })

structure Outcome where
  succeeds : Bool
  output : List Char
  deriving Repr, DecidableEq

def Outcome.exitCode (outcome : Outcome) : Nat := if outcome.succeeds then 0 else 1

def run (arguments : List String) (surroundings : Surroundings) : Outcome :=
  match Options.ofArguments? arguments with
  | none => ⟨false, []⟩
  | some options =>
      match ruleSet? options surroundings.files surroundings.environment with
      | none => ⟨false, []⟩
      | some set =>
          let result := (answerLines set options.all surroundings.console surroundings.lines).run {}
          ⟨result.1, result.2.output⟩

end RuleBook.CommandLine
