import AccessScopes.Config
import AccessScopes.EnvFile.Assignment
import AccessScopes.Session.OpenLog

/-!
# Sessions

A session is what a program and its surroundings have in common while the program runs: the
environment, the file tree, the working directory, the audit log that is open, and the loggers made
so far. All loggers share the one open log, so opening a log through any of them redirects, and
closing it silences, all of them.
-/

namespace AccessScopes

open Files

structure Session where
  environment : Environment := ∅
  tree : Tree := {}
  directory : Location := []
  log : Option OpenLog := none
  loggers : Table String Path := ∅
  deriving DecidableEq

/-- Why the environment could not be loaded: no path from the root can name the working directory, or
a variable is refused. -/
inductive LoadError
  | lost
  | refused (refusal : Environment.Refusal)
  deriving DecidableEq

/-- Why an audit log could not be opened. -/
inductive OpenError
  | emptyName (error : EmptyName)
  | refused (refusal : Refusal)
  deriving DecidableEq

namespace Session

/-- The name of the environment files that are looked for. -/
def envFileName : String := ".env"

/-! ### Configuration -/

def setVariable (session : Session) (name value : String) : Except Environment.Refusal Unit × Session :=
  match session.environment.set name value with
  | .error refusal => (.error refusal, session)
  | .ok environment => (.ok (), { session with environment })

/-- Loads the nearest environment file into the environment, if there is one. -/
def loadEnvironment (session : Session) : Except LoadError Unit × Session :=
  match pathProblem? (Location.path session.directory) with
  | some _ => (.error .lost, session)
  | none =>
    match session.tree.nearest? session.directory envFileName with
    | none => (.ok (), session)
    | some text =>
      match EnvFile.load session.environment text with
      | (.error refusal, environment) => (.error (.refused refusal), { session with environment })
      | (.ok _, environment) => (.ok (), { session with environment })

def config (session : Session) : Config :=
  .ofEnvironment session.environment

/-! ### The audit log -/

def closeLog (session : Session) : Session :=
  { session with log := none }

/-- The log that is opened at an address. -/
def startLog (session : Session) (address : Address) : OpenLog :=
  { address with due? := session.tree.lastDay? address.location }

/-- Opens the log file that a path names and returns its path. The log that was open is closed even
if this fails. -/
def openLog (session : Session) (path : String) : Except OpenError Path × Session :=
  match (Path.parse path).logFile with
  | .error error => (.error (.emptyName error), session.closeLog)
  | .ok file =>
    let address := file.address session.directory
    match session.tree.touchAt address with
    | .error refusal => (.error (.refused refusal), session.closeLog)
    | .ok tree => (.ok file, { session with tree, log := some (session.startLog address) })

/-- Opens a log on behalf of a logger, which is kept under an identifier if this succeeds. -/
def openLogger (session : Session) (id path : String) : Except OpenError Path × Session :=
  match session.openLog path with
  | (.error error, after) => (.error error, after)
  | (.ok file, after) => (.ok file, { after with loggers := after.loggers.insert id file })

/-- Adds a record to the open log; it is lost if no log is open. -/
def record (session : Session) (record : Record) : Session :=
  match session.log with
  | none => session
  | some log =>
    let (tree, log) := log.add session.tree record.text
    { session with tree, log := some log }

/-! ### Changes from outside -/

def write (session : Session) (path text : String) : Except Refusal Unit × Session :=
  match session.tree.writeAt session.directory path text with
  | .error refusal => (.error refusal, session)
  | .ok tree => (.ok (), { session with tree })

/-- Removes a file; a log that is open on it stays open and loses its file. -/
def remove (session : Session) (path : String) : Except Refusal Unit × Session :=
  match session.tree.removeAt session.directory path with
  | .error refusal => (.error refusal, session)
  | .ok (location, tree) => (.ok (), { session with tree, log := session.log.map (·.cut location) })

def makeDirectory (session : Session) (path : String) : Except Refusal Unit × Session :=
  match session.tree.makeDirectoryAt session.directory path with
  | .error refusal => (.error refusal, session)
  | .ok tree => (.ok (), { session with tree })

def enter (session : Session) (path : String) : Except Refusal Unit × Session :=
  match session.tree.enter session.directory path with
  | .error refusal => (.error refusal, session)
  | .ok directory => (.ok (), { session with directory })

/-- The session once a day is over. -/
def age (session : Session) (day : CalendarDay) : Session :=
  { session with tree := session.tree.age day, log := session.log.map (·.age day) }

end Session

end AccessScopes
