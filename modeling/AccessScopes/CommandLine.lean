import AccessScopes.Session.Basic

/-!
# The command line

The command judges each of its arguments as a request under the configuration of its session and
prints one line for each. It exits with 0 if all are allowed, with 1 if not, and with 2 and a usage
line if there are no arguments. If auditing is on, each verdict is recorded as well. An environment
that cannot be loaded and a log that cannot be opened end the run before anything is printed.
-/

namespace AccessScopes.CommandLine

/-- What a run of the command shows. What the system says of records that it lost is not part of it. -/
structure Report where
  exitCode : UInt32
  output : String
  errors : String
  deriving DecidableEq

def usage : Report where
  exitCode := 2
  output := ""
  errors := "usage: gatelock SCOPE [SCOPE ...]\n"

def verdictLine (checker : Checker) (scope : String) : String :=
  (if checker.can scope then "ALLOW " else "DENY ") ++ scope ++ "\n"

def report (checker : Checker) (arguments : List String) : Report where
  exitCode := if arguments.all checker.can then 0 else 1
  output := .join (arguments.map (verdictLine checker))
  errors := ""

def verdictRecord (checker : Checker) (time scope : String) : Record :=
  .decision { time, scope, allowed := checker.can scope }

/-- Why a run ended before anything was judged. -/
inductive Failure
  | notLoaded (error : LoadError)
  | notOpened (error : OpenError)
  deriving DecidableEq

/-- A run that failed, with what it had shown by then. -/
structure Crash where
  failure : Failure
  output : String
  errors : String
  deriving DecidableEq

/-- A run that fails before it shows anything. -/
def Failure.atOnce (failure : Failure) : Crash where
  failure
  output := ""
  errors := ""

/-- Judges the arguments under the configuration of a session whose environment is loaded. -/
def judge (time : String) (arguments : List String) (session : Session) : Except Crash Report × Session :=
  let checker := session.config.checker
  if session.config.audit then
    match session.openLog session.config.logPath with
    | (.error error, after) => (.error (Failure.notOpened error).atOnce, after)
    | (.ok _, after) =>
      let records := arguments.map (verdictRecord checker time)
      (.ok (report checker arguments), (records.foldl Session.record after).closeLog)
  else (.ok (report checker arguments), session)

/-- Runs the command at a given time, within a day. -/
def run (time : String) (arguments : List String) (session : Session) : Except Crash Report × Session :=
  if arguments.isEmpty then (.ok usage, session)
  else
    match session.loadEnvironment with
    | (.error error, after) => (.error (Failure.notLoaded error).atOnce, after)
    | (.ok _, after) => judge time arguments after

end AccessScopes.CommandLine
