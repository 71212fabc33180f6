import AccessScopes.Audit.Time
import AccessScopes.CommandLine
import AccessScopes.Files.Backup
import Std.Time.DateTime.Timestamp

/-!
# The program

Runs the command in the surroundings of the process. What is shown and recorded is what the rest of
the library says; here it is read from and written to files, variables and streams.
-/

namespace AccessScopes

open Files

/-- The working directory of the process. -/
def workingDirectory : IO Location := do
  return (Path.parse (← IO.currentDir).toString).components

/-- The text of the nearest environment file, if there is one. -/
def readEnvFile (directory : Location) : IO (Option String) := do
  let here ← IO.currentDir
  for place in directory :: above directory do
    let file := here / Location.path (place ++ [Session.envFileName])
    let isFile ← try pure ((← file.metadata).type == .file) catch _ => pure false
    if isFile then return some (← IO.FS.readFile file)
  return none

/-- The part of the environment that settings and references of an environment file can reach. -/
def readEnvironment (envFile : Option String) : IO Environment := do
  let references := (EnvFile.bindings (envFile.getD "")).flatMap EnvFile.Binding.references
  let mut environment : Environment := ∅
  for name in Config.settings ++ references.map EnvFile.Reference.name do
    if let some value ← IO.getEnv name then environment := environment.insert name value
  return environment

/-- The seconds since the start of 1970. -/
def now : IO Nat := do
  return (← Std.Time.Timestamp.now).toSecondsSinceUnixEpoch.val.toNat

/-- Opens the audit log of a configuration, if auditing is on, and returns its address. -/
def openAuditLog (config : Config) (directory : Location) : IO (Option Address) := do
  if !config.audit then return none
  match (Path.parse config.logPath).logFile with
  | .error error => throw (.userError error.message)
  | .ok file =>
    let address := file.address directory
    let _ ← IO.FS.Handle.mk address.path .append
    return some address

/-- Puts the file of an audit log aside if it was last written before today, and removes the backups that are then too
many. -/
def rotateAuditLog (address : Address) (today : Nat) : IO Unit := do
  let here ← IO.currentDir
  let file := here / address.path
  if !(← file.pathExists) then return
  let lastDay := (← file.metadata).modified.sec.toNat / 86400
  let backup := here / (address.backup (.ofDays lastDay)).path
  if lastDay < today && !(← backup.pathExists) then
    IO.FS.rename file backup
    let holder := address.location.dropLast
    let entries ← (here / Location.path holder).readDir
    let found : Tree := { nodes := .ofList (entries.toList.map fun entry => (holder ++ [entry.fileName], .file "")) }
    for place in found.spentBackups address.location do
      IO.FS.removeFile (here / Location.path place)

/-- Adds a record to an audit log. If the system refuses, the record is lost and the run goes on. -/
def recordVerdict (address : Address) (checker : Checker) (scope : String) : IO Unit := do
  let time ← now
  try
    rotateAuditLog address (time / 86400)
    let handle ← IO.FS.Handle.mk address.path .append
    handle.putStr (CommandLine.verdictRecord checker (timeStamp time) scope).text
  catch error => IO.eprintln error

/-- Runs the command on its arguments and returns the exit code. -/
def runCommand (arguments : List String) : IO UInt32 := do
  if arguments.isEmpty then
    (← IO.getStderr).putStr CommandLine.usage.errors
    return CommandLine.usage.exitCode
  let directory ← workingDirectory
  let envFile ← readEnvFile directory
  let environment ← readEnvironment envFile
  let (loaded, environment) := EnvFile.load environment (envFile.getD "")
  if let .error refusal := loaded then throw (.userError (refusal.message?.getD "a variable has no name"))
  let config := Config.ofEnvironment environment
  let checker := config.checker
  let log ← openAuditLog config directory
  for scope in arguments do
    IO.print (CommandLine.verdictLine checker scope)
    if let some address := log then recordVerdict address checker scope
  return (CommandLine.report checker arguments).exitCode

end AccessScopes

def main (arguments : List String) : IO UInt32 :=
  AccessScopes.runCommand arguments
