import RuleBook.CommandLine
import Std.Time.DateTime.Timestamp

/-!
# Program

Reads the files, the environment and the records of a run, and prints its answers.
-/

namespace RuleBook

def variableNames : List String :=
  ["SIFTRULE__NOTATION__HEAD_TAIL_SEPARATOR", "SIFTRULE__NOTATION__NAME_SEPARATOR",
    "SIFTRULE__NOTATION__RULE_SEPARATOR", "SIFTRULE__MATCHING__TRACE_REFERENCES",
    "SIFTRULE__LOG_FILTER", "SIFTRULE__NOTATION", "SIFTRULE__MATCHING"]

def readVariables : IO (List (String × String)) :=
  variableNames.filterMapM fun name => do
    let value? ← IO.getEnv name
    return value?.map (name, ·)

def readFiles (paths : List String) : IO CommandLine.Files :=
  paths.filterMapM fun (path : String) => do
    try
      let text ← IO.FS.readFile path
      return some (path, text)
    catch _ => return none

def readClock : IO Instant := do
  let now ← Std.Time.Timestamp.now
  match Instant.ofMilliseconds? now.toMillisecondsSinceUnixEpoch.val with
  | some moment => return moment
  | none => throw (IO.userError "the clock is out of range")

def console (set : RuleSet) : CommandLine.Console IO where
  moments := do
    let moments ← set.rules.mapM fun _ => readClock
    let last ← readClock
    return fun place => moments.getD place last
  print text := do
    let output ← IO.getStdout
    try
      output.putStr (String.ofList text)
      output.flush
      return true
    catch _ => return false

structure Incoming where
  stream : IO.FS.Stream

namespace Incoming

partial def readBytes (incoming : Incoming) (read : List UInt8) : IO (List UInt8) := do
  match (← incoming.stream.read 1).toList with
  | [] => return read.reverse
  | byte :: _ =>
      let read := byte :: read
      if byte = Text.lineFeed then return read.reverse else incoming.readBytes read

def readLine? (incoming : Incoming) : IO (Option Text.Line) := do
  try
    let bytes ← incoming.readBytes []
    return if bytes.isEmpty then none else some (Text.readLine bytes)
  catch _ => return some none

partial def forEach {β : Type} (incoming : Incoming) (b : β)
    (f : Text.Line → β → IO (ForInStep β)) : IO β := do
  match ← incoming.readLine? with
  | none => return b
  | some line =>
      match ← f line b with
      | .done b => return b
      | .yield b => incoming.forEach b f

instance : ForIn IO Incoming Text.Line := ⟨forEach⟩

end Incoming

end RuleBook

open RuleBook in
def main (arguments : List String) : IO UInt32 := do
  let some options := CommandLine.Options.ofArguments? arguments | return 1
  let environment ← readVariables
  let files ← readFiles options.paths
  let some set := CommandLine.ruleSet? options files environment | return 1
  let lines : Incoming := ⟨← IO.getStdin⟩
  let answered ← CommandLine.answerLines set options.all (console set) lines
  return if answered then 0 else 1
