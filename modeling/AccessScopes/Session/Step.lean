import AccessScopes.CommandLine

/-!
# Steps of a session

What can happen in a session, one thing after another: changes from outside, the end of a day, loading
the configuration, running the command, and what loggers do. Each step has an outcome and leaves a
session. Steps happen at times, which show only in the audit records made then.
-/

namespace AccessScopes

open Files

inductive Step
  | setVariable (name value : String)
  | unsetVariable (name : String)
  | write (path text : String)
  | remove (path : String)
  | makeDirectory (path : String)
  | enter (path : String)
  | configure
  | command (arguments : List String)
  | openLogger (id path : String)
  | decision (id scope : String) (allowed : Bool)
  | message (id : String) (level : Level) (text : String)
  | close (id : String)
  | midnight (day : CalendarDay)
  deriving DecidableEq

inductive Outcome
  | done
  | configured (config : Config)
  | reported (report : CommandLine.Report)
  | opened (path : Path)
  | refused (refusal : Refusal)
  | notSet (refusal : Environment.Refusal)
  | notLoaded (error : LoadError)
  | notOpened (error : OpenError)
  | unknownLogger (id : String)
  deriving DecidableEq

namespace Outcome

def ofChange : Except Refusal Unit → Outcome
  | .error refusal => refused refusal
  | .ok _ => done

def ofSetting : Except Environment.Refusal Unit → Outcome
  | .error refusal => notSet refusal
  | .ok _ => done

def ofRun : Except CommandLine.Crash CommandLine.Report → Outcome
  | .error ⟨.notLoaded error, _, _⟩ => notLoaded error
  | .error ⟨.notOpened error, _, _⟩ => notOpened error
  | .ok report => reported report

def ofOpening : Except OpenError Path → Outcome
  | .error error => notOpened error
  | .ok path => opened path

end Outcome

namespace Session

/-- Does something through a logger, if there is one under the identifier. -/
def through (session : Session) (id : String) (after : Session) : Outcome × Session :=
  match session.loggers.get? id with
  | none => (.unknownLogger id, session)
  | some _ => (.done, after)

/-- Takes a step at a given time. -/
def step (session : Session) (time : String) : Step → Outcome × Session
  | .setVariable name value => (session.setVariable name value).map .ofSetting id
  | .unsetVariable name =>
    (.done, { session with environment := session.environment.erase name })
  | .write path text => (session.write path text).map .ofChange id
  | .remove path => (session.remove path).map .ofChange id
  | .makeDirectory path => (session.makeDirectory path).map .ofChange id
  | .enter path => (session.enter path).map .ofChange id
  | .configure =>
    match session.loadEnvironment with
    | (.error error, after) => (.notLoaded error, after)
    | (.ok _, after) => (.configured after.config, after)
  | .command arguments => (CommandLine.run time arguments session).map .ofRun id
  | .openLogger logger path => (session.openLogger logger path).map .ofOpening id
  | .decision logger scope allowed =>
    session.through logger (session.record (.decision { time, scope, allowed }))
  | .message logger level text =>
    session.through logger (if level.isRecorded then session.record (.message text) else session)
  | .close logger => session.through logger session.closeLog
  | .midnight day => (.done, session.age day)

/-- Takes steps one after another, and returns what each came to and the session after it. -/
def trace (session : Session) : List (String × Step) → List (Outcome × Session)
  | [] => []
  | (time, step) :: rest => session.step time step :: (session.step time step).2.trace rest

/-- The session after steps taken one after another. -/
def run (session : Session) (steps : List (String × Step)) : Session :=
  steps.foldl (fun session timed => (session.step timed.1 timed.2).2) session

end Session

end AccessScopes
